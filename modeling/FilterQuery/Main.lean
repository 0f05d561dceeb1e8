import FilterQuery.Command.Log
import FilterQuery.Command.Usage

/-!
# The program

Reads the arguments and the configuration files that a command may look at, runs the command and
puts what it leaves behind into effect.
-/

namespace FilterQuery.Main

/-- What stands at a path. -/
def entryAt (path : Path) : IO (Option FileEntry) := do
  let location := (← IO.currentDir) / path.text
  if ← location.isDir then return some .directory
  else if ← location.pathExists then
    return some ((String.fromUTF8? (← IO.FS.readBinFile location)).elim .binary .text)
  else return none

/-- The part of the file system that commands depend on: the directories around the working
directory and the home directory, and their configuration files. -/
def readTree (directory : Path) (home : Option Path) : IO FileTree := do
  let directories := directory.ancestors ++ (home.map Path.ancestors).getD []
  (directories.reverse ++ directories.map configIn).foldlM
    (fun tree path => do
      match tree.resolve path, ← entryAt path with
      | .ok location, some entry => return tree.put location entry
      | _, _ => return tree)
    ⟨[]⟩

/-- Write the configuration files that differ between two trees. -/
def writeChanges (before after : FileTree) (paths : List Path) : IO Unit :=
  paths.forM fun path => do
    match after.find? path with
    | some (.text content) =>
      if before.find? path != some (.text content) then IO.FS.writeFile ⟨path.text⟩ content
    | _ => return ()

/-- The session of the process. -/
def currentSession : IO Session := do
  let directory := Path.ofText (← IO.currentDir).toString
  let home := (← IO.getEnv "HOME").map Path.ofText
  let colorTerminal := (← IO.getEnv "NO_COLOR").isNone && (← (← IO.getStdout).isTty)
  return { tree := ← readTree directory home, directory, home, colorTerminal }

/-- Run an invocation and put its outcome into effect. -/
def execute (invocation : Invocation) : IO UInt32 := do
  let session ← currentSession
  let outcome := session.run invocation
  for record in LogRecord.shown invocation.verbosity (session.log invocation.command) do
    IO.eprintln ("[" ++ record.level.name ++ "] " ++ record.text)
  writeChanges session.tree outcome.tree
    (configIn session.directory :: (session.home.map configIn).toList)
  IO.print outcome.output
  IO.eprint outcome.errors
  return if outcome.succeeded then 0 else 1

/-- Say what is wrong with the arguments, or what was asked for instead of a command. -/
def explain (fault : UsageFault) : IO UInt32 := do
  match fault with
  | .helpRequested =>
    IO.print usage
    return 0
  | .versionRequested =>
    IO.print version
    return 0
  | .nothingGiven =>
    IO.eprint usage
    return 2
  | fault =>
    IO.eprint ("error: " ++ fault.message ++ "\n\n" ++ usage)
    return 2

end FilterQuery.Main

/-- The command line. -/
def main (arguments : List String) : IO UInt32 :=
  match FilterQuery.Invocation.ofArguments arguments with
  | .ok invocation => FilterQuery.Main.execute invocation
  | .error fault => FilterQuery.Main.explain fault

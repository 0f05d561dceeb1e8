import FilterQuery.Command.Session
import FilterQuery.Config.Log

/-!
# The log of a command

What a command reports besides its output. The option `-v` shows the records of more levels the more
often it is given.
-/

namespace FilterQuery

/-- How often `-v` must be given for records of a level. -/
def LogLevel.verbosity : LogLevel → Nat
  | .info => 1
  | .debug => 2
  | .trace => 3

def LogLevel.name : LogLevel → String
  | .info => "INFO"
  | .debug => "DEBUG"
  | .trace => "TRACE"

/-- The records of levels that are shown. -/
def LogRecord.shown (verbosity : Nat) (records : List LogRecord) : List LogRecord :=
  records.filter fun record => record.level.verbosity ≤ verbosity

namespace Session

/-- The records of building a key table from the files of a session. -/
def tableLog (config : Except ConfigFault Config) : List LogRecord :=
  match config with
  | .error _ => []
  | .ok config => KeyTable.log config

/-- All that a command reports. -/
def log (session : Session) (command : Command) : List LogRecord :=
  let config := session.tree.loadConfig session.home session.directory
  match command with
  | .tokens _ _ | .init _ _ | .config => []
  | .keys _ => tableLog config
  | .check =>
    if (session.tree.discover session.home session.directory).isEmpty then [] else tableLog config
  | .parse query _ =>
    match config with
    | .error _ => []
    | .ok config =>
      match Token.scan query with
      | .error _ => []
      | .ok tokens => (Reading.notes config.settings.maxDepth tokens).map (⟨.trace, ·⟩)
  | .compile query _ _ =>
    tableLog config ++
      match config >>= Compiler.ofConfig with
      | .error _ => []
      | .ok compiler => compiler.log query

end Session

end FilterQuery

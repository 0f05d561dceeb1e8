import FilterQuery.FileTree

/-!
# Finding configuration files

The files that apply to a directory stand in it and in the directories around it, up to the first
that is marked as root. Unless there is one, the file in the home directory applies too, after all
others.
-/

namespace FilterQuery

def configName : String :=
  ".sift.toml"

def configIn (directory : Path) : Path :=
  directory.child configName

namespace FileTree

/-- The content of a configuration file. -/
def loadFile (tree : FileTree) (path : Path) : Except ConfigFault NamedFile :=
  match tree.read path with
  | .error reason => .error (.unreadable path.text reason)
  | .ok text =>
    match ConfigFile.read? text with
    | none => .error (.malformed path.text)
    | some content => .ok ⟨path.text, content⟩

/-- Whether a file is a well-formed configuration marked as root. -/
def isRootConfig (tree : FileTree) (path : Path) : Bool :=
  match tree.loadFile path with
  | .ok file => file.content.isRoot
  | .error _ => false

/-- The files among some candidates up to the first root, and whether there was one. -/
def upToRoot (tree : FileTree) : List Path → List Path × Bool
  | [] => ([], false)
  | candidate :: rest =>
    if tree.isFile candidate then
      if tree.isRootConfig candidate then ([candidate], true)
      else
        let (found, rooted) := tree.upToRoot rest
        (candidate :: found, rooted)
    else tree.upToRoot rest

/-- The candidates of a directory, from the inside out. -/
def candidates (directory : Path) : List Path :=
  directory.ancestors.map configIn

/-- The configuration files that apply to a directory, the closest first. -/
def discover (tree : FileTree) (home : Option Path) (directory : Path) : List Path :=
  match tree.upToRoot (candidates directory) with
  | (found, true) => found
  | (found, false) =>
    match home with
    | none => found
    | some home =>
      if tree.isFile (configIn home) && !found.any (configIn home).isSame then
        found ++ [configIn home]
      else found

def loadFiles (tree : FileTree) (paths : List Path) : Except ConfigFault Config := do
  Config.merge (← paths.mapM tree.loadFile)

/-- The configuration that applies to a directory. -/
def loadConfig (tree : FileTree) (home : Option Path) (directory : Path) :
    Except ConfigFault Config :=
  tree.loadFiles (tree.discover home directory)

end FileTree

end FilterQuery

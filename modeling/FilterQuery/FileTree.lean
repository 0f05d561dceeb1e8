import FilterQuery.Config.Merged
import FilterQuery.Path

/-!
# File trees

The state of a file system as far as configurations depend on it: where files and directories stand,
and what the files hold. A path leads to a location by way of directories; paths that are written
differently may lead to one location. Two things are left out: there are no links, and everything
may be read and written.
-/

namespace FilterQuery

/-- Where a file or directory stands: its name and those of the directories around it, from the
inside out. The root has no name. -/
abbrev Location := List String

/-- The path that names a location by its own names alone. -/
def Path.ofLocation : Location → Path
  | [] => { isAbsolute := true, parts := [] }
  | name :: around => (ofLocation around).child name

/-- What stands at a location. -/
inductive FileEntry where
  | directory
  /-- A file with a text. -/
  | text (content : String)
  /-- A file whose bytes are not the UTF-8 form of a text. -/
  | binary
  deriving DecidableEq, Repr

/-- A file system: what stands at its locations. The first entry for a location counts. -/
structure FileTree where
  entries : List (Location × FileEntry)
  deriving Repr

namespace FileTree

/-- The entry of the first pair for a location. -/
def entryIn (location : Location) : List (Location × FileEntry) → Option FileEntry
  | [] => none
  | pair :: rest => if location = pair.1 then some pair.2 else entryIn location rest

/-- What stands at a location. The root is always a directory. -/
def lookup? (tree : FileTree) (location : Location) : Option FileEntry :=
  if location = [] then some .directory else entryIn location tree.entries

/-- The tree with an entry at a location, whatever stood there before. -/
def put (tree : FileTree) (location : Location) (entry : FileEntry) : FileTree :=
  ⟨(location, entry) :: tree.entries⟩

theorem lookup?_put (tree : FileTree) (location other : Location) (entry : FileEntry) :
    (tree.put location entry).lookup? other =
      if other = [] then some .directory
      else if other = location then some entry
      else tree.lookup? other := by
  simp only [lookup?, put, entryIn]
  split <;> simp_all

/-- The number of bytes a name may have. -/
def maxNameSize : Nat :=
  255

/-- The number of bytes a path must stay below. -/
def pathSizeLimit : Nat :=
  4096

/-- The location of a name in a directory. Two dots name the directory around, a single dot the
directory itself. -/
def step (name : String) (location : Location) : Except ReadFault Location :=
  if name = "." then .ok location
  else if name = ".." then .ok (location.drop 1)
  else if maxNameSize < name.utf8ByteSize then .error .nameTooLong
  else .ok (name :: location)

/-- The location that names lead to from the root, given the innermost first. Every name is looked
up in a directory. -/
def follow (tree : FileTree) : List String → Except ReadFault Location
  | [] => .ok []
  | name :: around => do
    let location ← tree.follow around
    match tree.lookup? location with
    | some .directory => step name location
    | some _ => .error .notDirectory
    | none => .error .notFound

/-- The location that a path leads to. What is written after the last name asks for a directory.
Names are looked up from the root, so paths are meant to be absolute; one that is not is taken as it
is where the working directory is the root. -/
def resolve (tree : FileTree) (path : Path) : Except ReadFault Location :=
  if path.chars.contains '\x00' then .error .nulInPath
  else if pathSizeLimit ≤ path.text.utf8ByteSize then .error .nameTooLong
  else do
    let location ← tree.follow path.names
    match tree.lookup? location with
    | some (.text _) | some .binary =>
      if path.trailing = "" then .ok location else .error .notDirectory
    | some .directory | none => .ok location

/-- What stands where a path leads to. -/
def find? (tree : FileTree) (path : Path) : Option FileEntry :=
  match tree.resolve path with
  | .ok location => tree.lookup? location
  | .error _ => none

def isFile (tree : FileTree) (path : Path) : Bool :=
  match tree.find? path with
  | some (.text _) | some .binary => true
  | some .directory | none => false

def exists? (tree : FileTree) (path : Path) : Bool :=
  (tree.find? path).isSome

def read (tree : FileTree) (path : Path) : Except ReadFault String := do
  match tree.lookup? (← tree.resolve path) with
  | some (.text content) => .ok content
  | some .binary => .error .notUtf8
  | some .directory => .error .isDirectory
  | none => .error .notFound

/-- The tree with a text written to a file. The directory around it must be there. -/
def write (tree : FileTree) (path : Path) (content : String) : Except ReadFault FileTree := do
  let location ← tree.resolve path
  match tree.lookup? location with
  | some .directory => .error .isDirectory
  | some (.text _) | some .binary => .ok (tree.put location (.text content))
  | none =>
    if path.trailing = "" then .ok (tree.put location (.text content)) else .error .isDirectory

/-- The tree with directories at all locations that names lead through from the root, and the last
of these locations. The names are given the innermost first. -/
def makeDirectories (tree : FileTree) : List String → FileTree × Location
  | [] => (tree, [])
  | name :: around =>
    let (tree, location) := tree.makeDirectories around
    match step name location with
    | .error _ => (tree, location)
    | .ok inner =>
      (if (tree.lookup? inner).isSome then tree else tree.put inner .directory, inner)

/-- The tree with a directory where a path leads to, and with all directories on the way. -/
def makeDirectory (tree : FileTree) (path : Path) : FileTree :=
  (tree.makeDirectories path.names).1

end FileTree

end FilterQuery

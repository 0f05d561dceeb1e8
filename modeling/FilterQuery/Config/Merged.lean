import FilterQuery.Config.File
import FilterQuery.Path
import FilterQuery.Query.Reading

/-!
# Merged configurations

The files that apply to a directory are merged, the closest first. A setting comes from the closest
file that gives it, a key wholly from the closest file that defines it.
-/

namespace FilterQuery

/-- Why a file cannot be read. -/
inductive ReadFault where
  | notFound
  | notDirectory
  | isDirectory
  | nameTooLong
  /-- The path holds the character that ends paths. -/
  | nulInPath
  | notUtf8
  deriving DecidableEq, Repr

/-- The fault as the system words it. -/
def ReadFault.message : ReadFault → String
  | .notFound => "No such file or directory (os error 2)"
  | .notDirectory => "Not a directory (os error 20)"
  | .isDirectory => "Is a directory (os error 21)"
  | .nameTooLong => "File name too long (os error 36)"
  | .nulInPath => "file name contained an unexpected NUL byte"
  | .notUtf8 => "stream did not contain valid UTF-8"

/-- What is wrong with a configuration. -/
inductive ConfigFault where
  | unreadable (path : String) (reason : ReadFault)
  | malformed (path : String)
  /-- A range key without a bound. -/
  | unboundedRange (path key : String)
  /-- A nesting limit out of range. -/
  | depthOutOfRange (path : String) (maxDepth : Nat)
  deriving DecidableEq, Repr

/-- What is wrong, in words. -/
def ConfigFault.message : ConfigFault → String
  | .unreadable path reason =>
    "failed to read config file " ++ path ++ ": " ++ reason.message
  | .malformed path => "failed to parse config file " ++ path ++ ": TOML parse error"
  | .unboundedRange path key =>
    "invalid definition for key '" ++ key ++ "' in " ++ path ++
      ": range rules need `bound = \"lower\"` or `bound = \"upper\"`"
  | .depthOutOfRange path maxDepth =>
    "invalid setting 'max_depth' in " ++ path ++ ": must be between 1 and " ++
      toString maxDepthCeiling ++ ", got " ++ toString maxDepth

/-- The settings in force. -/
structure Settings where
  maxDepth : Nat := defaultMaxDepth
  builtinKeys : Bool := true
  deriving DecidableEq, Repr

/-- A configured key with everything filled in. Terms ignore `bound` and `inclusive`. -/
structure KeyDefinition where
  rule : RuleKind
  field : String
  bound : Option BoundSide
  inclusive : Bool
  value : ValueFormat
  source : String
  deriving DecidableEq, Repr

/-- A configuration: the outcome of merging some files, the closest first. -/
structure Config where
  settings : Settings := {}
  keys : NameMap KeyDefinition := .empty
  root : Option String := none
  files : List String := []
  deriving DecidableEq

/-- A file's content with its path. -/
structure NamedFile where
  path : String
  content : ConfigFile
  deriving DecidableEq

namespace Settings

/-- The settings with those of a closer section over them. -/
def override (settings : Settings) (path : String) (closer : SettingsSection) :
    Except ConfigFault Settings := do
  let maxDepth ←
    match closer.maxDepth with
    | none => .ok settings.maxDepth
    | some maxDepth =>
      if 1 ≤ maxDepth ∧ maxDepth ≤ maxDepthCeiling then .ok maxDepth
      else .error (.depthOutOfRange path maxDepth)
  return ⟨maxDepth, closer.builtinKeys.getD settings.builtinKeys⟩

/-- The settings of some files, the closest first: the farthest is applied first. -/
def merge : List NamedFile → Except ConfigFault Settings
  | [] => .ok {}
  | file :: farther => do
    let settings ← merge farther
    match file.content.settings with
    | none => return settings
    | some closer => settings.override file.path closer

end Settings

namespace KeyDefinition

/-- The format of values where a definition gives none. -/
def defaultFormat : RuleKind → ValueFormat
  | .range => .date
  | .term => .keyword

/-- The definition a section gives. -/
def ofSection (path key : String) (given : KeySection) : Except ConfigFault KeyDefinition :=
  if given.rule = .range ∧ given.bound = none then .error (.unboundedRange path key)
  else
    .ok
      { rule := given.rule
        field := given.field
        bound := given.bound
        inclusive := given.inclusive.getD true
        value := given.value.getD (defaultFormat given.rule)
        source := path }

/-- The definitions together with those of a farther file, which fill in the names that are missing
and are otherwise not looked at. -/
def extend (keys : NameMap KeyDefinition) (path : String) :
    List (String × KeySection) → Except ConfigFault (NameMap KeyDefinition)
  | [] => .ok keys
  | (name, given) :: rest => do
    if keys.contains name then extend keys path rest
    else
      let definition ← ofSection path name given
      extend (keys.insert name definition) path rest

/-- The sections of a file in ascending order of name. -/
def sections (file : ConfigFile) : List (String × KeySection) :=
  match file.keys with
  | none => []
  | some keys => keys.entries

/-- The definitions of some files, the closest first. -/
def merge (files : List NamedFile) : Except ConfigFault (NameMap KeyDefinition) :=
  files.foldlM (fun keys file => extend keys file.path (sections file.content)) .empty

end KeyDefinition

namespace Config

/-- The configuration of some files, the closest first. Faults of settings come before faults of
keys. -/
def merge (files : List NamedFile) : Except ConfigFault Config := do
  let settings ← Settings.merge files
  let keys ← KeyDefinition.merge files
  return ⟨settings, keys, files.head?.bind (Path.parentOf? ·.path), files.map (·.path)⟩

end Config

end FilterQuery

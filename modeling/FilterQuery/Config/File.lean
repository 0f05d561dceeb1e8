import FilterQuery.Key.Rule
import FilterQuery.NameMap
import FilterQuery.Toml.Document

/-!
# Configuration files

A configuration file may mark the end of the search for further files, give settings and define
keys. Everything but the rule and the field of a key may be left out. Unknown names and values of
another type make the whole file malformed.
-/

namespace FilterQuery

structure SettingsSection where
  maxDepth : Option Nat := none
  builtinKeys : Option Bool := none
  deriving DecidableEq, Repr

/-- The definition of a key in a file. -/
structure KeySection where
  rule : RuleKind
  field : String
  bound : Option BoundSide := none
  inclusive : Option Bool := none
  value : Option ValueFormat := none
  deriving DecidableEq, Repr

/-- The content of a configuration file. -/
structure ConfigFile where
  root : Option Bool := none
  settings : Option SettingsSection := none
  keys : Option (NameMap KeySection) := none
  deriving DecidableEq

namespace ConfigFile

open Toml (Entries Value)

def boolean? : Value → Option Bool
  | .boolean value => some value
  | _ => none

/-- A natural number of 64 bits. -/
def natural? : Value → Option Nat
  | .integer (.ofNat number) => if number < UInt64.size then some number else none
  | _ => none

def text? : Value → Option String
  | .string text => some text
  | _ => none

/-- One of several words. A word may also be written as a table that holds an empty table or array
under it. -/
def word? : Value → Option String
  | .string word => some word
  | .table _ [(word, .table _ [])] => some word
  | .table _ [(word, .array [])] => some word
  | _ => none

def ruleKind? (value : Value) : Option RuleKind :=
  match word? value with
  | some "range" => some .range
  | some "term" => some .term
  | _ => none

def boundSide? (value : Value) : Option BoundSide :=
  match word? value with
  | some "lower" => some .lower
  | some "upper" => some .upper
  | _ => none

def valueFormat? (value : Value) : Option ValueFormat :=
  match word? value with
  | some "date" => some .date
  | some "integer" => some .integer
  | some "keyword" => some .keyword
  | _ => none

/-- The value under a name, which may be missing but not be of another type. -/
def optional {α : Type} (read? : Value → Option α) (name : String) (entries : Entries) :
    Option (Option α) :=
  match Entries.get? name entries with
  | none => some none
  | some value => (read? value).map some

/-- The value under a name, which must be there. -/
def required {α : Type} (read? : Value → Option α) (name : String) (entries : Entries) : Option α :=
  (Entries.get? name entries).bind read?

/-- Whether all names of a table are known. -/
def onlyNames (names : List String) (entries : Entries) : Bool :=
  entries.all fun entry => names.contains entry.1

/-- The settings of a file. They may also be an array of their values in order, of which the last
may be missing. -/
def settings? : Value → Option SettingsSection
  | .table _ entries =>
    if onlyNames ["max_depth", "builtin_keys"] entries then do
      let maxDepth ← optional natural? "max_depth" entries
      let builtinKeys ← optional boolean? "builtin_keys" entries
      return ⟨maxDepth, builtinKeys⟩
    else none
  | .array [] => some ⟨none, none⟩
  | .array [maxDepth] => do return ⟨some (← natural? maxDepth), none⟩
  | .array (maxDepth :: builtinKeys :: _) => do
    return ⟨some (← natural? maxDepth), some (← boolean? builtinKeys)⟩
  | _ => none

/-- The definition of a key. It may also be an array of its values in order, of which none may be
missing. -/
def key? : Value → Option KeySection
  | .table _ entries =>
    if onlyNames ["rule", "field", "bound", "inclusive", "value"] entries then do
      let rule ← required ruleKind? "rule" entries
      let field ← required text? "field" entries
      let bound ← optional boundSide? "bound" entries
      let inclusive ← optional boolean? "inclusive" entries
      let value ← optional valueFormat? "value" entries
      return ⟨rule, field, bound, inclusive, value⟩
    else none
  | .array (rule :: field :: bound :: inclusive :: value :: _) => do
    return ⟨← ruleKind? rule, ← text? field, some (← boundSide? bound),
      some (← boolean? inclusive), some (← valueFormat? value)⟩
  | _ => none

def keys? : Value → Option (NameMap KeySection)
  | .table _ entries => do
    let sections ← entries.mapM fun entry => (key? entry.2).map fun key => (entry.1, key)
    return .ofList sections
  | _ => none

/-- The content of the entries of a document. -/
def ofEntries? (entries : Entries) : Option ConfigFile :=
  if onlyNames ["root", "settings", "keys"] entries then do
    let root ← optional boolean? "root" entries
    let settings ← optional settings? "settings" entries
    let keys ← optional keys? "keys" entries
    return ⟨root, settings, keys⟩
  else none

/-- The content of a file with a text, or none if the text is malformed. -/
def read? (text : String) : Option ConfigFile :=
  Toml.read? text >>= ofEntries?

/-- Whether no file further away applies. -/
def isRoot (file : ConfigFile) : Bool :=
  file.root == some true

end ConfigFile

end FilterQuery

import FilterQuery.Key.Rule
import FilterQuery.NameMap

/-!
# Key tables

The keys that queries may use, each with its rule and with where the rule comes from.
-/

namespace FilterQuery

/-- Where a rule comes from. -/
inductive KeySource where
  | builtin
  /-- A configuration file. -/
  | file (path : String)
  | custom
  deriving DecidableEq, Repr

/-- How listings name a source. -/
def KeySource.name : KeySource → String
  | .builtin => "builtin"
  | .file path => path
  | .custom => "custom"

/-- A rule with its source. -/
structure KeyEntry where
  rule : Rule
  source : KeySource
  deriving DecidableEq, Repr

/-- What a listing says of a key. -/
structure KeySummary where
  name : String
  rule : RuleKind
  field : String
  value : ValueFormat
  filter : String
  source : String
  deriving DecidableEq, Repr

/-- The keys that queries may use. -/
abbrev KeyTable := NameMap KeyEntry

namespace KeyTable

def createdAt : String :=
  "createdAt"

/-- The built-in keys: `since` for dates from the value on, `until` for dates up to it. -/
def builtin : KeyTable :=
  .ofList [("since", ⟨.dateFrom createdAt, .builtin⟩), ("until", ⟨.dateUntil createdAt, .builtin⟩)]

def rule? (table : KeyTable) (name : String) : Option Rule :=
  (table.get? name).map (·.rule)

def source? (table : KeyTable) (name : String) : Option KeySource :=
  (table.get? name).map (·.source)

/-- The table with a further rule of no file, and whether this replaces another rule. -/
def insertRule (table : KeyTable) (name : String) (rule : Rule) : KeyTable × Bool :=
  (table.insert name ⟨rule, .custom⟩, table.contains name)

/-- The table without a key, and whether it had that key. -/
def removeRule (table : KeyTable) (name : String) : KeyTable × Bool :=
  (table.erase name, table.contains name)

def summary (name : String) (entry : KeyEntry) : KeySummary where
  name := name
  rule := entry.rule.kind
  field := entry.rule.field
  value := entry.rule.format
  filter := entry.rule.describe
  source := entry.source.name

/-- What a listing says of all keys, in ascending order of name. -/
def summaries (table : KeyTable) : List KeySummary :=
  table.entries.map fun entry => summary entry.1 entry.2

end KeyTable

end FilterQuery

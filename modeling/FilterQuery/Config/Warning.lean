import FilterQuery.Config.Merged
import FilterQuery.Text.Blank

/-!
# Warnings about configurations

A configuration can be valid and still hold what no query can use.
-/

namespace FilterQuery

/-- Something in a configuration that has no use. -/
inductive ConfigWarning where
  /-- No query can name the key. -/
  | keyNotQueryable (key : String)
  /-- The key looks at no field. -/
  | emptyField (key : String)
  /-- Term rules have no bound. -/
  | boundIgnored (key : String)
  /-- There is no key at all. -/
  | noKeysDefined
  deriving DecidableEq, Repr

namespace ConfigWarning

def key? : ConfigWarning → Option String
  | .keyNotQueryable key => some key
  | .emptyField key => some key
  | .boundIgnored key => some key
  | .noKeysDefined => none

def message : ConfigWarning → String
  | .keyNotQueryable key =>
    "key '" ++ key ++ "' can never appear in a query (keys are letters and '_', " ++
      "and may not be AND or OR)"
  | .emptyField key => "key '" ++ key ++ "' has an empty field name"
  | .boundIgnored key => "key '" ++ key ++ "' is a term rule; its bound is ignored"
  | .noKeysDefined => "built-in keys are disabled and no keys are defined"

def hint : ConfigWarning → String
  | .keyNotQueryable _ => "Rename the key using only letters and '_'; AND and OR are reserved."
  | .emptyField _ => "Set `field` to the backend field to filter on."
  | .boundIgnored _ => "Remove `bound` from term rules, or change the rule to \"range\"."
  | .noKeysDefined => "Add [keys.<name>] tables, or set builtin_keys = true."

end ConfigWarning

/-- The warnings about one key. -/
def KeyDefinition.warnings (name : String) (definition : KeyDefinition) : List ConfigWarning :=
  (if isKeyShaped name then [] else [.keyNotQueryable name]) ++
    (if Text.allBlank definition.field then [.emptyField name] else []) ++
    if definition.rule = .term ∧ definition.bound.isSome then [.boundIgnored name] else []

/-- The warnings about a configuration, in ascending order of key. -/
def Config.warnings (config : Config) : List ConfigWarning :=
  if !config.settings.builtinKeys && config.keys.isEmpty then [.noKeysDefined]
  else config.keys.entries.flatMap fun entry => entry.2.warnings entry.1

end FilterQuery

import FilterQuery.Config.Keys
import FilterQuery.Query.Reading.Steps

/-!
# The log of a compilation

What is reported while a key table is built from a configuration and a query is compiled with it.
-/

namespace FilterQuery

/-- How important a record is. -/
inductive LogLevel where
  | info
  | debug
  | trace
  deriving DecidableEq, Repr

/-- One record of a log. -/
structure LogRecord where
  level : LogLevel
  text : String
  deriving DecidableEq, Repr

namespace KeyTable

/-- A record for each configured key that replaces a built-in one, up to a key without a rule. -/
def replacements (table : KeyTable) : List (String × KeyDefinition) → List LogRecord
  | [] => []
  | (name, definition) :: rest =>
    match definition.toRule name with
    | .error _ => []
    | .ok rule =>
      let further := replacements (table.insert name ⟨rule, .file definition.source⟩) rest
      if table.source? name = some .builtin then
        ⟨.info, "key '" ++ name ++ "' from " ++ definition.source ++
          " replaces the built-in key"⟩ :: further
      else further

/-- The records of building the table of a configuration. -/
def log (config : Config) : List LogRecord :=
  replacements (initial config.settings) config.keys.entries ++
    match ofConfig config with
    | .error _ => []
    | .ok table =>
      [⟨.debug, "key table has " ++ toString table.size ++ " keys: " ++
        ", ".intercalate table.names⟩]

end KeyTable

namespace Compiler

/-- The records of compiling a query. -/
def log (compiler : Compiler) (query : String) : List LogRecord :=
  match Token.scan query with
  | .error _ => []
  | .ok tokens =>
    (Reading.notes compiler.maxDepth tokens).map (⟨.trace, ·⟩) ++
      match Disjunction.ofQuery compiler.maxDepth query with
      | .error _ => []
      | .ok tree =>
        [⟨.debug, "compiling query with " ++ toString tree.leaves.length ++ " leaves"⟩]

end Compiler

end FilterQuery

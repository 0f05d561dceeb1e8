import FilterQuery.Compiler
import FilterQuery.Config.Merged

/-!
# Key tables of configurations

The key table of a configuration holds the built-in keys, unless they are switched off, and the
configured keys over them.
-/

namespace FilterQuery

def KeyDefinition.toRule (name : String) (definition : KeyDefinition) : Except ConfigFault Rule :=
  match definition.rule, definition.bound with
  | .term, _ => .ok (.term definition.field definition.value)
  | .range, some side =>
    .ok (.range definition.field side definition.inclusive definition.value)
  | .range, none => .error (.unboundedRange definition.source name)

namespace KeyTable

/-- The keys a configuration starts from. -/
def initial (settings : Settings) : KeyTable :=
  if settings.builtinKeys then builtin else .empty

/-- The table with configured keys put over its own. -/
def configure (table : KeyTable) : List (String × KeyDefinition) → Except ConfigFault KeyTable
  | [] => .ok table
  | (name, definition) :: rest => do
    let rule ← definition.toRule name
    configure (table.insert name ⟨rule, .file definition.source⟩) rest

/-- The key table of a configuration. -/
def ofConfig (config : Config) : Except ConfigFault KeyTable :=
  configure (initial config.settings) config.keys.entries

end KeyTable

/-- The compiler of a configuration: its key table and its nesting limit. -/
def Compiler.ofConfig (config : Config) : Except ConfigFault Compiler := do
  return ⟨← KeyTable.ofConfig config, config.settings.maxDepth⟩

end FilterQuery

import FilterQuery.Config.Merged
import FilterQuery.Toml.Written

/-!
# Configurations as text

The settings in force and the configured keys in the form of a configuration file, so that the text
reads back as the same settings and keys.
-/

namespace FilterQuery

def Settings.tomlLines (settings : Settings) : List String :=
  ["[settings]", "max_depth = " ++ toString settings.maxDepth,
    "builtin_keys = " ++ Toml.writeBoolean settings.builtinKeys]

/-- The lines of a key, after an empty one. -/
def KeyDefinition.tomlLines (name : String) (definition : KeyDefinition) : List String :=
  ["", "[keys." ++ Toml.writeKey name ++ "]", "rule = \"" ++ definition.rule.name ++ "\"",
      "field = " ++ Toml.writeString definition.field] ++
    (match definition.bound with
      | some side => ["bound = \"" ++ side.name ++ "\""]
      | none => []) ++
    ["inclusive = " ++ Toml.writeBoolean definition.inclusive,
      "value = \"" ++ definition.value.name ++ "\""]

/-- Writing cannot fail: the one number is a nesting limit, which merging keeps within `1` and the
ceiling, and all else is texts and truth values, for each of which there is a written form. -/
def Config.toToml (config : Config) : String :=
  Text.unlines (config.settings.tomlLines ++
    config.keys.entries.flatMap fun entry => entry.2.tomlLines entry.1)

end FilterQuery

import FilterQuery.Text.Lines

/-!
# Configuration templates

New configuration files show what can be configured without configuring anything: every line that is
not empty is a comment.
-/

namespace FilterQuery

/-- A line as a comment. Comments and empty lines stay as they are. -/
def commentLine (line : String) : String :=
  if line.isEmpty || "#".isPrefixOf line then line else "# " ++ line

/-- The lines of an example configuration for a directory. -/
def localExample : List String :=
  ["# sift configuration",
    "#",
    "# Settings here apply to queries run from this directory and below. Closer",
    "# .sift.toml files override settings and key definitions from parent",
    "# directories and from ~/.sift.toml.",
    "",
    "# Stop looking for configuration in parent directories and ~/.sift.toml.",
    "root = false",
    "",
    "[settings]",
    "# Maximum parenthesis nesting accepted in a query (1 to 128).",
    "max_depth = 64",
    "# Provide the built-in keys: since (createdAt >= value) and until (createdAt <= value).",
    "builtin_keys = true",
    "",
    "# Each [keys.<name>] table makes <name>:<value> usable in queries.",
    "#",
    "# rule      - \"range\" (one-sided range on a field) or \"term\" (exact match)",
    "# field     - backend field the filter applies to",
    "# bound     - \"lower\" or \"upper\", required for range rules",
    "# inclusive - whether the bound includes the value (default true)",
    "# value     - \"date\", \"integer\" or \"keyword\" (default: date for ranges,",
    "#             keyword for terms)",
    "",
    "[keys.updated_since]",
    "rule = \"range\"",
    "field = \"updatedAt\"",
    "bound = \"lower\"",
    "",
    "[keys.author]",
    "rule = \"term\"",
    "field = \"author.login\""]

/-- The lines of an example configuration for all directories of a user. -/
def globalExample : List String :=
  ["# sift global configuration (~/.sift.toml)",
    "#",
    "# Lowest-precedence settings, shared by every directory without a",
    "# `root = true` configuration of its own.",
    "",
    "[settings]",
    "max_depth = 64",
    "builtin_keys = true",
    "",
    "[keys.before]",
    "rule = \"range\"",
    "field = \"createdAt\"",
    "bound = \"upper\"",
    "inclusive = false"]

/-- The text of a new configuration file for a directory. -/
def localTemplate : String :=
  Text.unlines (localExample.map commentLine)

/-- The text of a new configuration file for all directories of a user. -/
def globalTemplate : String :=
  Text.unlines (globalExample.map commentLine)

end FilterQuery

import FilterQuery.Command.Arguments
import FilterQuery.Text.Lines

/-!
# Usage

What is shown when arguments name no command to run.
-/

namespace FilterQuery

/-- The summary of all commands and options. -/
def usage : String :=
  Text.unlines
    ["Boolean filter queries compiled to search backend queries", "",
      "Usage: sift [OPTIONS] <COMMAND>", "",
      "Commands:",
      "  tokens <QUERY> [--json]                     Show the tokens of a query",
      "  parse <QUERY> [--canonical]                 Show the syntax tree of a query",
      "  compile <QUERY> [--compact | --explain]     Compile a query into a backend query",
      "  keys [--json]                               List the keys queries may use",
      "  init [--global] [--force]                   Write a configuration file",
      "  check                                       Check the configuration",
      "  config                                      Show the configuration in force", "",
      "Options:",
      "  -v, --verbose       Show more of the log: info, debug, trace",
      "      --color <WHEN>  When to use colors: auto, always, never",
      "  -h, --help          Show this text",
      "  -V, --version       Show the version"]

def version : String :=
  "sift 0.1.0\n"

/-- The cause of a usage fault. -/
def UsageFault.message : UsageFault → String
  | .helpRequested => "help requested"
  | .versionRequested => "version requested"
  | .nothingGiven | .missingCommand => "a command is missing"
  | .unknownCommand => "unknown command"
  | .unknownArgument => "unexpected argument"
  | .invalidValue => "invalid value for an option"
  | .unexpectedValue => "value for an option that takes none"
  | .conflict => "an option cannot be given here"
  | .missingArgument => "a query is missing"

end FilterQuery

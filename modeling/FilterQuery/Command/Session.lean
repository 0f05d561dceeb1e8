import FilterQuery.Command.Arguments
import FilterQuery.Config.Discovery
import FilterQuery.Config.Keys
import FilterQuery.Config.Printed
import FilterQuery.Config.Template
import FilterQuery.Config.Warning
import FilterQuery.Query.Tree.Printed
import FilterQuery.Terminal.Style
import FilterQuery.Terminal.Table

/-!
# Running commands

A command runs in a session, which holds all that its outcome depends on. The outcome holds the two
output texts and the file tree that the command leaves behind, so that running is a function.
-/

namespace FilterQuery

/-- Where a command runs. -/
structure Session where
  tree : FileTree
  /-- The working directory. -/
  directory : Path
  /-- The home directory, if one is known. Both directories are meant to be absolute. -/
  home : Option Path
  /-- Whether output is colored unless asked otherwise. -/
  colorTerminal : Bool := false
  /-- How JSON and TOML are colored. -/
  highlighter : Style.Highlighter := .plain

/-- What a command leaves behind. -/
structure Outcome where
  succeeded : Bool
  output : String := ""
  errors : String := ""
  tree : FileTree

namespace Session

/-- A command that succeeds with an output. -/
def succeed (session : Session) (output : String) : Outcome where
  succeeded := true
  output := output
  tree := session.tree

/-- A command that fails with an error text and nothing else. -/
def fail (session : Session) (errors : String) : Outcome where
  succeeded := false
  errors := errors
  tree := session.tree

def useColor (session : Session) : ColorMode → Bool
  | .auto => session.colorTerminal
  | .always => true
  | .never => false

/-- A command that fails with a faulty query. -/
def failWithQuery (session : Session) (color : Bool) (query : String) (fault : Fault) : Outcome :=
  session.fail
    (Style.styled color Style.error "error:" ++ " " ++
      (⟨fault, some query⟩ : Diagnosis).render ++ "\n")

/-- A source text, in color if wanted. -/
def sourceText (session : Session) (color : Bool) (language : Style.SourceLanguage)
    (text : String) : String :=
  Style.styled color (session.highlighter.paint language) text

/-- A value over several lines, in color if wanted. -/
def prettyText (session : Session) (color : Bool) (value : Json) : String :=
  session.sourceText color .json value.pretty ++ "\n"

end Session

/-- The name of a token's kind in listings. -/
def TokenKind.name : TokenKind → String
  | .key => "key"
  | .value => "value"
  | .punctuation _ => "punct"
  | .connective _ => "connective"

def Token.toJson (token : Token) : Json :=
  .obj [("kind", .str token.kind.name), ("text", .str token.text), ("offset", .num token.offset)]

def Token.table (tokens : List Token) : Table where
  header := ["Offset", "Kind", "Text"]
  rows := tokens.map fun token => [toString token.offset, token.kind.name, token.text]

def KeySummary.toJson (summary : KeySummary) : Json :=
  .obj [("name", .str summary.name), ("rule", .str summary.rule.name),
    ("field", .str summary.field), ("value", .str summary.value.name),
    ("filter", .str summary.filter), ("source", .str summary.source)]

def KeySummary.table (summaries : List KeySummary) : Table where
  header := ["Key", "Rule", "Filter", "Value", "Source"]
  rows := summaries.map fun summary =>
    [summary.name, summary.rule.name, summary.filter, summary.value.name, summary.source]

namespace Session

/-- Show the tokens of a query. -/
def runTokens (session : Session) (color : Bool) (query : String) (json : Bool) : Outcome :=
  match Token.scan query with
  | .error fault => session.failWithQuery color query fault
  | .ok tokens =>
    session.succeed
      (if json then session.prettyText color (.arr (tokens.map Token.toJson))
      else (Token.table tokens).draw ++ "\n")

/-- Show the tree of a query, or its canonical text. -/
def runParse (session : Session) (color : Bool) (config : Config) (query : String)
    (canonical : Bool) : Outcome :=
  match Disjunction.ofQuery config.settings.maxDepth query with
  | .error fault => session.failWithQuery color query fault
  | .ok tree =>
    session.succeed
      (if canonical then Style.queryText color tree.canonical ++ "\n" else tree.listing)

/-- The query, its tree and its clause, before the backend query itself. -/
def explanation (color : Bool) (query : String) (tree : Disjunction) (clause : Clause) : String :=
  Text.unlines
    [Style.styled color Style.header "Query", "  " ++ Style.queryText color query, "",
      Style.styled color Style.subheader "Syntax tree:", Text.indent tree.listing, "",
      Style.styled color Style.subheader "Compiled:", Text.indent clause.listing, "",
      Style.styled color Style.subheader "Backend query:"]

def runCompile (session : Session) (color : Bool) (config : Config) (query : String)
    (compact explain : Bool) : Outcome :=
  match Compiler.ofConfig config with
  | .error fault => session.fail ("error: " ++ fault.message ++ "\n")
  | .ok compiler =>
    match Disjunction.ofQuery compiler.maxDepth query with
    | .error fault => session.failWithQuery color query fault
    | .ok tree =>
      match compiler.keys.compile tree with
      | .error fault => session.failWithQuery color query fault
      | .ok clause =>
        session.succeed
          ((if explain then explanation color query tree clause else "") ++
            if compact then clause.toJson.compact ++ "\n"
            else session.prettyText color clause.toJson)

def runKeys (session : Session) (color : Bool) (config : Config) (json : Bool) : Outcome :=
  match KeyTable.ofConfig config with
  | .error fault => session.fail ("error: " ++ fault.message ++ "\n")
  | .ok table =>
    let summaries := table.summaries
    session.succeed
      (if json then session.prettyText color (.arr (summaries.map KeySummary.toJson))
      else if summaries.isEmpty then Style.styled color Style.dim "No keys defined." ++ "\n"
      else (KeySummary.table summaries).draw ++ "\n")

/-- Write a configuration template into the working directory, or for all directories into the home
directory. A file that is there stays unless `force` is given. -/
def runInit (session : Session) (color : Bool) (everywhere force : Bool) : Outcome :=
  let useHome := everywhere || session.home.any session.directory.isSame
  match if useHome then session.home else some session.directory with
  | none => session.fail "error: could not determine home directory\n"
  | some directory =>
    let target := configIn directory
    if session.tree.exists? target && !force then
      session.fail
        ("error: configuration file already exists: " ++ target.text ++
          "\nuse --force to overwrite\n")
    else
      let template := if useHome then globalTemplate else localTemplate
      match session.tree.write target template with
      | .error reason =>
        session.fail ("error: failed to write " ++ target.text ++ ": " ++ reason.message ++ "\n")
      | .ok tree =>
        { succeeded := true
          output := Text.unlines
            ["Created " ++ target.text, "",
              Style.styled color Style.subheader "Configuration written:",
              Text.indent (session.sourceText color .toml template)]
          tree := tree }

/-- The lines about the keys of a checked configuration. -/
def checkedKeys (table : KeyTable) : List String :=
  "Keys:" ::
    if table.isEmpty then ["  (none)"]
    else
      table.summaries.map fun summary =>
        "  " ++ summary.name ++ " -> " ++ summary.filter ++ " [" ++ summary.source ++ "]"

/-- What to do about some warnings, each hint once, in ascending order. -/
def hintsOf (warnings : List ConfigWarning) : List String :=
  (NameMap.ofList (warnings.map fun warning => (warning.hint, ()))).names

def warningLines (color : Bool) (warnings : List ConfigWarning) : List String :=
  [Style.styled color Style.warning ("Warnings (" ++ toString warnings.length ++ "):")] ++
    warnings.map (fun warning => "  - " ++ warning.message) ++ ["", "Hints:"] ++
    (hintsOf warnings).map ("  - " ++ ·)

/-- A check that ends with some lines. -/
def checkOutcome (session : Session) (succeeded : Bool) (lines : List String) (errors : String) :
    Outcome where
  succeeded := succeeded
  output := Text.unlines (["Checking configuration...", ""] ++ lines)
  errors := errors
  tree := session.tree

/-- Check the configuration. Warnings count as failure. -/
def runCheck (session : Session) (color : Bool) : Outcome :=
  let files := session.tree.discover session.home session.directory
  if files.isEmpty then
    session.checkOutcome true
      ["No configuration files found; using built-in keys.", "",
        "Run 'sift init' to create a configuration file."] ""
  else
    let fileLines := "Config files:" :: files.map ("  " ++ ·.text) ++ [""]
    match session.tree.loadFiles files with
    | .error fault => session.checkOutcome false fileLines ("error: " ++ fault.message ++ "\n")
    | .ok config =>
      match KeyTable.ofConfig config with
      | .error fault => session.checkOutcome false fileLines ("error: " ++ fault.message ++ "\n")
      | .ok table =>
        let keyLines :=
          checkedKeys table ++ ["Max depth: " ++ toString config.settings.maxDepth, ""]
        let warnings := config.warnings
        if warnings.isEmpty then
          session.checkOutcome true
            (fileLines ++ keyLines ++ [Style.styled color Style.success "No issues found."]) ""
        else
          session.checkOutcome false (fileLines ++ keyLines ++ warningLines color warnings) ""

/-- Show the configuration with the files it comes from. -/
def runConfig (session : Session) (color : Bool) (config : Config) : Outcome :=
  let comments :=
    if config.files.isEmpty then ["# no configuration files found; defaults shown"]
    else config.files.map ("# " ++ ·)
  session.succeed
    (Text.unlines (comments.map (Style.styled color Style.dim)) ++
      session.sourceText color .toml config.toToml)

/-- Run a command that needs the configuration of the working directory. -/
def withConfig (session : Session) (run : Config → Outcome) : Outcome :=
  match session.tree.loadConfig session.home session.directory with
  | .error fault =>
    session.fail ("error: failed to load configuration: " ++ fault.message ++ "\n")
  | .ok config => run config

def run (session : Session) (invocation : Invocation) : Outcome :=
  let color := session.useColor invocation.color
  match invocation.command with
  | .tokens query json => session.runTokens color query json
  | .parse query canonical =>
    session.withConfig fun config => session.runParse color config query canonical
  | .compile query compact explain =>
    session.withConfig fun config => session.runCompile color config query compact explain
  | .keys json => session.withConfig fun config => session.runKeys color config json
  | .init everywhere force => session.runInit color everywhere force
  | .check => session.runCheck color
  | .config => session.withConfig fun config => session.runConfig color config

end Session

end FilterQuery

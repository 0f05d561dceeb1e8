/-!
# Command line arguments

The arguments name one command, with options before and after it. What is not understood is a usage
fault. A value of `--color` is looked at only when the next option or argument settles it, so an
unknown argument directly after a bad value is the fault that counts.
-/

namespace FilterQuery

inductive ColorMode where
  /-- If the output goes to a terminal. -/
  | auto
  | always
  | never
  deriving DecidableEq, Repr

inductive Command where
  /-- Show the tokens of a query. -/
  | tokens (query : String) (json : Bool)
  /-- Show the tree of a query, or its canonical text. -/
  | parse (query : String) (canonical : Bool)
  /-- Compile a query, on one line or with its tree beside it. -/
  | compile (query : String) (compact explain : Bool)
  /-- List the keys. -/
  | keys (json : Bool)
  /-- Write a configuration template. -/
  | init (everywhere force : Bool)
  /-- Check the configuration. -/
  | check
  /-- Show the configuration. -/
  | config
  deriving DecidableEq, Repr

/-- A command with the options all commands share. -/
structure Invocation where
  command : Command
  color : ColorMode := .auto
  verbosity : Nat := 0
  deriving DecidableEq, Repr

/-- Why arguments are no invocation. -/
inductive UsageFault where
  | helpRequested
  | versionRequested
  | nothingGiven
  | missingCommand
  | unknownCommand
  | unknownArgument
  | invalidValue
  | unexpectedValue
  | conflict
  | missingArgument
  deriving DecidableEq, Repr

inductive CommandName where
  | tokens
  | parse
  | compile
  | keys
  | init
  | check
  | config
  deriving DecidableEq, Repr

namespace CommandName

def ofText? (text : String) : Option CommandName :=
  if text = "tokens" then some .tokens
  else if text = "parse" then some .parse
  else if text = "compile" then some .compile
  else if text = "keys" then some .keys
  else if text = "init" then some .init
  else if text = "check" then some .check
  else if text = "config" then some .config
  else none

/-- The switches of a command besides those of all commands. -/
def switches : CommandName → List String
  | .tokens => ["json"]
  | .parse => ["canonical"]
  | .compile => ["compact", "explain"]
  | .keys => ["json"]
  | .init => ["global", "force"]
  | .check => []
  | .config => []

def takesQuery : CommandName → Bool
  | .tokens | .parse | .compile => true
  | .keys | .init | .check | .config => false

end CommandName

def ColorMode.ofText? (text : String) : Option ColorMode :=
  if text = "auto" then some .auto
  else if text = "always" then some .always
  else if text = "never" then some .never
  else none

/-- An option `--color` that has been met: without a value so far, or with one that is not
settled. -/
inductive PendingColor where
  | none
  | awaiting
  | given (text : String)
  deriving DecidableEq, Repr

/-- The options and arguments met on one side of the command's name. -/
structure ArgumentState where
  pending : PendingColor := .none
  color : Option ColorMode := none
  verbosity : Option Nat := none
  switches : List String := []
  query : Option String := none
  deriving DecidableEq, Repr

namespace ArgumentState

/-- The state with a value for `--color`, which may be given once. -/
def setColor (state : ArgumentState) (text : String) : Except UsageFault ArgumentState :=
  if state.color.isSome then .error .conflict
  else
    match ColorMode.ofText? text with
    | some mode => .ok { state with pending := .none, color := some mode }
    | none => .error .invalidValue

/-- The state with nothing pending. -/
def settle (state : ArgumentState) : Except UsageFault ArgumentState :=
  match state.pending with
  | .none => .ok state
  | .awaiting => .error .invalidValue
  | .given text => state.setColor text

/-- The state after one more `-v`. The count stays below 256. -/
def countVerbose (state : ArgumentState) : Except UsageFault ArgumentState := do
  let state ← state.settle
  return { state with verbosity := some (min 255 (state.verbosity.getD 0 + 1)) }

/-- The state after a switch, which may be given once. -/
def setSwitch (state : ArgumentState) (name : String) : Except UsageFault ArgumentState := do
  let state ← state.settle
  if state.switches.contains name then .error .conflict
  else return { state with switches := name :: state.switches }

end ArgumentState

/-- Split a long option at its first equals sign. -/
def splitOption (option : List Char) : String × Option String :=
  match option.dropWhile (· != '=') with
  | [] => (String.ofList option, none)
  | _ :: value => (String.ofList (option.takeWhile (· != '=')), some (String.ofList value))

/-- The state after a long option. `command` is the command whose options are read, if its name has
been met. -/
def longOption (command : Option CommandName) (state : ArgumentState) (option : List Char) :
    Except UsageFault ArgumentState := do
  let (name, value) := splitOption option
  let isSwitch :=
    match command with
    | some command => command.switches.contains name
    | none => false
  let isKnown := name = "color" || name = "verbose" || name = "help" || isSwitch ||
    (name = "version" && command.isNone)
  if !isKnown then .error .unknownArgument
  else if name = "color" then
    match value with
    | some text => do (← state.settle).setColor text
    | none => do return { (← state.settle) with pending := .awaiting }
  else if value.isSome then .error .unexpectedValue
  else if name = "verbose" then state.countVerbose
  else if name = "help" then do
    let _ ← state.settle
    .error .helpRequested
  else if name = "version" then do
    let _ ← state.settle
    .error .versionRequested
  else state.setSwitch name

/-- The state after the letters of short options. -/
def shortOptions (command : Option CommandName) (state : ArgumentState) :
    List Char → Except UsageFault ArgumentState
  | [] => .ok state
  | letter :: rest => do
    if letter = 'v' then shortOptions command (← state.countVerbose) rest
    else if letter = 'h' then
      let _ ← state.settle
      .error .helpRequested
    else if letter = 'V' && command.isNone then
      let _ ← state.settle
      .error .versionRequested
    else .error .unknownArgument

inductive ArgumentShape where
  | escape
  | long (option : List Char)
  | short (letters : List Char)
  | plain
  deriving DecidableEq, Repr

/-- The shape of an argument. A single hyphen is a plain argument. -/
def ArgumentShape.of (argument : String) : ArgumentShape :=
  match argument.toList with
  | ['-', '-'] => .escape
  | '-' :: '-' :: option => .long option
  | '-' :: letter :: letters => .short (letter :: letters)
  | _ => .plain

/-- The state after an argument that is no option. -/
def plainArgument (command : CommandName) (state : ArgumentState) (argument : String) :
    Except UsageFault ArgumentState := do
  if command.takesQuery && state.query.isNone then
    return { (← state.settle) with query := some argument }
  else .error .unknownArgument

/-- The state after the arguments that follow a command's name. After an escape all arguments are
plain. -/
def commandArguments (command : CommandName) (escaped : Bool) (state : ArgumentState) :
    List String → Except UsageFault ArgumentState
  | [] => .ok state
  | argument :: rest => do
    if escaped then
      commandArguments command true (← plainArgument command state argument) rest
    else
      match ArgumentShape.of argument with
      | .escape => commandArguments command true state rest
      | .long option =>
        commandArguments command false (← longOption (some command) state option) rest
      | .short letters =>
        commandArguments command false (← shortOptions (some command) state letters) rest
      | .plain =>
        if state.pending = .awaiting then
          commandArguments command false { state with pending := .given argument } rest
        else commandArguments command false (← plainArgument command state argument) rest

/-- The fault of asking for help on a command. -/
def helpOn : List String → UsageFault
  | [] => .helpRequested
  | [name] =>
    if (CommandName.ofText? name).isSome || name = "help" then .helpRequested else .unknownCommand
  | _ => .unknownCommand

/-- The fault of an argument after an escape where a command is due. -/
def escapedCommand (argument : String) : UsageFault :=
  if (CommandName.ofText? argument).isSome || argument = "help" then .unknownArgument
  else .unknownCommand

/-- The command and what is needed to build it, if all arguments are there and agree. -/
def buildCommand (command : CommandName) (state : ArgumentState) : Except UsageFault Command :=
  let has := state.switches.contains
  if has "compact" && has "explain" then .error .conflict
  else
    match command, state.query with
    | .tokens, some query => .ok (.tokens query (has "json"))
    | .parse, some query => .ok (.parse query (has "canonical"))
    | .compile, some query => .ok (.compile query (has "compact") (has "explain"))
    | .tokens, none | .parse, none | .compile, none => .error .missingArgument
    | .keys, _ => .ok (.keys (has "json"))
    | .init, _ => .ok (.init (has "global") (has "force"))
    | .check, _ => .ok .check
    | .config, _ => .ok .config

/-- The invocation of a command with the options met before its name. Shared options after the name
count before those in front of it. -/
def finishCommand (command : CommandName) (before : ArgumentState) (arguments : List String) :
    Except UsageFault Invocation := do
  let state ← (← commandArguments command false {} arguments).settle
  let built ← buildCommand command state
  let before ← before.settle
  return ⟨built, (state.color.orElse fun _ => before.color).getD .auto,
    (state.verbosity.orElse fun _ => before.verbosity).getD 0⟩

/-- The fault of arguments that name no command. -/
def noCommand (state : ArgumentState) : Except UsageFault Invocation := do
  let state ← state.settle
  if state.color.isNone && state.verbosity.isNone then .error .nothingGiven
  else .error .missingCommand

/-- The invocation of the arguments that follow some options. -/
def Invocation.ofArgumentsAfter (state : ArgumentState) :
    List String → Except UsageFault Invocation
  | [] => noCommand state
  | argument :: rest => do
    if state.pending = .awaiting && ArgumentShape.of argument = .plain then
      ofArgumentsAfter { state with pending := .given argument } rest
    else
      match CommandName.ofText? argument with
      | some command => finishCommand command state rest
      | none =>
        if argument = "help" then .error (helpOn rest)
        else
          match ArgumentShape.of argument with
          | .escape =>
            match rest with
            | [] => noCommand state
            | next :: _ => .error (escapedCommand next)
          | .long option => ofArgumentsAfter (← longOption none state option) rest
          | .short letters => ofArgumentsAfter (← shortOptions none state letters) rest
          | .plain => .error .unknownCommand

def Invocation.ofArguments (arguments : List String) : Except UsageFault Invocation :=
  ofArgumentsAfter {} arguments

end FilterQuery

import FilterQuery.Text.Search
import FilterQuery.Toml.Document

/-!
# Writing TOML

A string is written in the plainest form that holds it: the form with the fewest escapes and line
breaks comes first, and only a text that no form holds as it is gets escapes.
-/

namespace FilterQuery.Toml

/-- The two upper-case hexadecimal digits of a number below 256. -/
def hexPair (code : Nat) : List Char :=
  [(Nat.digitChar (code / 16 % 16)).toUpper, (Nat.digitChar (code % 16)).toUpper]

/-- A character between double quotes, other than the quote itself. -/
def escapeChar (c : Char) : List Char :=
  if c = '\\' then ['\\', '\\']
  else if c = '\x08' then ['\\', 'b']
  else if c = '\t' then ['\\', 't']
  else if c = '\n' then ['\\', 'n']
  else if c = '\x0c' then ['\\', 'f']
  else if c = '\r' then ['\\', 'r']
  else if isControl c then '\\' :: 'u' :: '0' :: '0' :: hexPair c.toNat
  else [c]

/-- The inside of a string between double quotes. -/
def basicBody (text : List Char) : List Char :=
  text.flatMap fun c => if c = '"' then ['\\', '"'] else escapeChar c

/-- The inside of a string between triple double quotes. `quotes` counts the quotes directly before:
a third one in a row is escaped, so that the string does not end early. -/
def basicBlockBody (quotes : Nat) : List Char → List Char
  | [] => []
  | '"' :: rest =>
    if quotes = 2 then '\\' :: '"' :: basicBlockBody 0 rest
    else '"' :: basicBlockBody (quotes + 1) rest
  | '\n' :: rest => '\n' :: basicBlockBody 0 rest
  | c :: rest => escapeChar c ++ basicBlockBody 0 rest

inductive StringForm where
  | basic
  | literal
  | basicBlock
  | literalBlock
  deriving DecidableEq, Repr

/-- The form a text is written in. -/
def StringForm.of (text : List Char) : StringForm :=
  let hasControl := text.any fun c => isControl c && c != '\n'
  let hasLineEnd := text.contains '\n'
  let hasBackslash := text.contains '\\'
  if hasControl then (if hasLineEnd then .basicBlock else .basic)
  else if !hasBackslash && !text.contains '"' && !hasLineEnd then .basic
  else if !text.contains '\'' && !hasLineEnd then .literal
  else if !hasBackslash && !Text.occursIn ['"', '"', '"'] text then .basicBlock
  else if !Text.occursIn ['\'', '\'', '\''] text then .literalBlock
  else if hasLineEnd then .basicBlock
  else .basic

/-- A block that holds a line break starts with a further one, which does not belong to the text. -/
def blockStart (text : List Char) : List Char :=
  if text.contains '\n' then ['\n'] else []

def StringForm.write (form : StringForm) (text : List Char) : List Char :=
  match form with
  | .basic => ['"'] ++ basicBody text ++ ['"']
  | .literal => ['\''] ++ text ++ ['\'']
  | .basicBlock => ['"', '"', '"'] ++ blockStart text ++ basicBlockBody 0 text ++ ['"', '"', '"']
  | .literalBlock => ['\'', '\'', '\''] ++ blockStart text ++ text ++ ['\'', '\'', '\'']

/-- A text as a TOML string. -/
def writeString (text : String) : String :=
  String.ofList ((StringForm.of text.toList).write text.toList)

/-- A text as one part of a TOML key. -/
def writeKey (name : String) : String :=
  let chars := name.toList
  let hasControl := chars.any isControl
  if !chars.isEmpty && chars.all isBareKeyChar then name
  else if !hasControl && !chars.contains '"' && !chars.contains '\\' then
    String.ofList (StringForm.basic.write chars)
  else if !hasControl && !chars.contains '\'' then String.ofList (StringForm.literal.write chars)
  else String.ofList (StringForm.basic.write chars)

/-- A truth value as TOML. -/
def writeBoolean (value : Bool) : String :=
  if value then "true" else "false"

end FilterQuery.Toml

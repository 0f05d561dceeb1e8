/-!
# Tokens of a query

A query is written in words and three punctuation marks. A word over letters, digits, `_` and `-` is
a connective if it is `AND` or `OR`, a key if it is made of letters and `_` alone, and a value
otherwise.
-/

namespace FilterQuery

inductive Punctuation where
  | openParen
  | closeParen
  | colon
  deriving DecidableEq, Repr

inductive Connective where
  | and
  | or
  deriving DecidableEq, Repr

inductive TokenKind where
  | key
  | value
  | punctuation (mark : Punctuation)
  | connective (word : Connective)
  deriving DecidableEq, Repr

/-- A token with its text and the number of bytes before it. Offsets are not bounded here, but tokens
are meant to end less than `2 ^ 64` bytes from the start, as all that stand in a text do. -/
structure Token where
  kind : TokenKind
  text : String
  offset : Nat
  deriving DecidableEq, Repr

namespace Token

/-- The number of bytes up to the end of the token. The sum is not bounded either. -/
def stop (token : Token) : Nat :=
  token.offset + token.text.utf8ByteSize

/-- How messages name the token. -/
def describe (token : Token) : String :=
  match token.kind with
  | .key => "key `" ++ token.text ++ "`"
  | .value => "value `" ++ token.text ++ "`"
  | .punctuation _ | .connective _ => "`" ++ token.text ++ "`"

/-- The end of the last token, or zero if there is none. -/
def stopOf (tokens : List Token) : Nat :=
  match tokens.getLast? with
  | some token => token.stop
  | none => 0

end Token

def isWordChar (c : Char) : Bool :=
  c.isAlphanum || c == '_' || c == '-'

def isKeyChar (c : Char) : Bool :=
  c.isAlpha || c == '_'

/-- The punctuation mark written as `c`. -/
def Punctuation.ofChar? (c : Char) : Option Punctuation :=
  if c = '(' then some .openParen
  else if c = ')' then some .closeParen
  else if c = ':' then some .colon
  else none

/-- The connective spelled `word`. -/
def Connective.ofWord? (word : String) : Option Connective :=
  if word = "AND" then some .and
  else if word = "OR" then some .or
  else none

/-- What a word is when it stands in a query. -/
def TokenKind.ofWord (word : String) : TokenKind :=
  match Connective.ofWord? word with
  | some known => .connective known
  | none => if word.toList.all isKeyChar then .key else .value

/-- Whether a query can hold `name` as a key. -/
def isKeyShaped (name : String) : Bool :=
  !name.isEmpty && name.toList.all isKeyChar && (Connective.ofWord? name).isNone

/-- Whether a query can hold `text` as a value: a word that is not a connective. -/
def isValueShaped (text : String) : Bool :=
  !text.isEmpty && text.toList.all isWordChar && (Connective.ofWord? text).isNone

end FilterQuery

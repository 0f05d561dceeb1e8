import FilterQuery.Query.Token.Scan
import FilterQuery.Text.Lines

/-!
# Styles of terminal text

A style is a sequence of codes put before a text and ended by a reset. Each code starts with an
escape character and ends with a letter, so that codes can be removed again. The colors of source
texts are up to a highlighter, of which it is known only that it loses no characters.
-/

namespace FilterQuery.Style

/-- The code with the given parameters. -/
def code (parameters : String) : String :=
  "\x1b[" ++ parameters ++ "m"

/-- The code that ends all styles. -/
def reset : String :=
  code "0"

/-- A text in the style of some codes. -/
def paint (codes text : String) : String :=
  codes ++ text ++ reset

def bold : String := code "1"
def faint : String := code "2"
def red : String := code "31"
def green : String := code "32"
def yellow : String := code "33"
def magenta : String := code "35"
def cyan : String := code "36"

def header (text : String) : String :=
  paint (bold ++ cyan) text

def subheader (text : String) : String :=
  paint bold text

def dim (text : String) : String :=
  paint faint text

def success (text : String) : String :=
  paint green text

def warning (text : String) : String :=
  paint yellow text

def error (text : String) : String :=
  paint red text

/-- A faint horizontal line. -/
def rule (width : Nat) : String :=
  dim (String.ofList (List.replicate width '─'))

/-- A text in a style, if colors are wanted. -/
def styled (color : Bool) (style : String → String) (text : String) : String :=
  if color then style text else text

/-- A token in the style of its kind. -/
def paintToken (token : Token) : String :=
  match token.kind with
  | .key => paint cyan token.text
  | .value => paint green token.text
  | .connective _ => paint (bold ++ magenta) token.text
  | .punctuation _ => dim token.text

/-- The characters that start in the first `count` bytes, and those after them. -/
def splitBytes (count : Nat) : List Char → List Char × List Char
  | [] => ([], [])
  | c :: rest =>
    if count = 0 then ([], c :: rest)
    else
      let (front, back) := splitBytes (count - c.utf8Size) rest
      (c :: front, back)

/-- The characters that follow the first `offset` bytes of a query, with its further tokens painted
and the text between them as written. -/
def paintFrom (offset : Nat) (chars : List Char) : List Token → String
  | [] => String.ofList chars
  | token :: rest =>
    let (gap, atToken) := splitBytes (token.offset - offset) chars
    let (_, after) := splitBytes token.text.utf8ByteSize atToken
    String.ofList gap ++ paintToken token ++ paintFrom token.stop after rest

/-- A query with its tokens in the styles of their kinds. A text that has no tokens stays as it
is. -/
def highlightQuery (query : String) : String :=
  match Token.scan query with
  | .ok tokens => paintFrom 0 query.toList tokens
  | .error _ => query

/-- A query for output. -/
def queryText (color : Bool) (query : String) : String :=
  styled color highlightQuery query

/-- The characters without codes. Inside a code, everything up to the next ASCII letter is part of
it. -/
def stripFrom (inCode : Bool) : List Char → List Char
  | [] => []
  | c :: rest =>
    if inCode then stripFrom (!c.isAlpha) rest
    else if c = '\x1b' then stripFrom true rest
    else c :: stripFrom false rest

def strip (text : String) : String :=
  String.ofList (stripFrom false text.toList)

/-! ## Source texts -/

/-- What source texts are written in. -/
inductive SourceLanguage where
  | json
  | toml
  deriving DecidableEq, Repr

/-- A color by its red, green and blue parts. -/
structure Color where
  red : UInt8
  green : UInt8
  blue : UInt8
  deriving DecidableEq, Repr

/-- The code that gives a text the color. -/
def Color.code (color : Color) : String :=
  Style.code ("38;2;" ++ toString color.red.toNat ++ ";" ++ toString color.green.toNat ++ ";" ++
    toString color.blue.toNat)

/-- How source texts are colored: the pieces of a text with their colors. -/
structure Highlighter where
  pieces : SourceLanguage → String → List (Color × String)
  /-- Every character belongs to a piece. -/
  join_pieces : ∀ language text, String.join ((pieces language text).map Prod.snd) = text

/-- A source text in color. Each piece carries its own code, and a reset follows the last. -/
def Highlighter.paint (highlighter : Highlighter) (language : SourceLanguage) (text : String) :
    String :=
  String.join ((highlighter.pieces language text).map fun piece => piece.1.code ++ piece.2) ++ reset

/-- This stands in for a highlighter that knows the languages: the lines of a text are its pieces, all
of one color. -/
def Highlighter.plain : Highlighter where
  pieces _ text := (Text.endedLines text.toList).map fun line =>
    (⟨248, 248, 242⟩, String.ofList line)
  join_pieces _ text := by
    rw [List.map_map]
    exact Text.join_endedLines text

/-- A source text in one color. -/
def source (text : String) : String :=
  Highlighter.plain.paint .json text

end FilterQuery.Style

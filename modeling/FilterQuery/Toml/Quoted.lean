/-!
# TOML strings

Strings are written in four forms: between double quotes with escapes, between single quotes as they
are, and both between triple quotes, where they may hold line breaks. Each reader takes the
characters after the opening quotes and gives the text with what follows the closing quotes.
-/

namespace FilterQuery.Toml

/-- A text read so far and the characters that follow it. -/
abbrev Scanned := Option (List Char × List Char)

/-- Put a character before the text that was read. -/
def prepend (c : Char) (scanned : Scanned) : Scanned :=
  scanned.map fun result => (c :: result.1, result.2)

/-- Control characters other than the tab may not stand for themselves. -/
def isControl (c : Char) : Bool :=
  (c.toNat < 0x20 && c != '\t') || c.toNat == 0x7F

def hexValue? (c : Char) : Option Nat :=
  if c.isDigit then some (c.toNat - '0'.toNat)
  else if 'a' ≤ c ∧ c ≤ 'f' then some (c.toNat - 'a'.toNat + 10)
  else if 'A' ≤ c ∧ c ≤ 'F' then some (c.toNat - 'A'.toNat + 10)
  else none

/-- The number written with some hexadecimal digits. -/
def hexNumber? (digits : List Char) : Option Nat :=
  digits.foldlM (fun number digit => (hexValue? digit).map (16 * number + ·)) 0

/-- The character with a code point, if there is one. -/
def charAt? (code : Nat) : Option Char :=
  if code.isValidChar then some (Char.ofNat code) else none

/-- The character of an escape that is given by its code point. -/
def codeEscape? (digits : List Char) : Option Char :=
  hexNumber? digits >>= charAt?

/-- The character of an escape of one letter. -/
def letterEscape? (c : Char) : Option Char :=
  if c = 'b' then some '\x08'
  else if c = 't' then some '\t'
  else if c = 'n' then some '\n'
  else if c = 'f' then some '\x0c'
  else if c = 'r' then some '\r'
  else if c = 'e' then some '\x1b'
  else if c = '"' then some '"'
  else if c = '\\' then some '\\'
  else none

/-- A string between double quotes. -/
def basicString : List Char → Scanned
  | [] => none
  | '"' :: rest => some ([], rest)
  | '\\' :: 'x' :: a :: b :: rest =>
    match codeEscape? [a, b] with
    | some c => prepend c (basicString rest)
    | none => none
  | '\\' :: 'u' :: a :: b :: c :: d :: rest =>
    match codeEscape? [a, b, c, d] with
    | some c => prepend c (basicString rest)
    | none => none
  | '\\' :: 'U' :: a :: b :: c :: d :: e :: f :: g :: h :: rest =>
    match codeEscape? [a, b, c, d, e, f, g, h] with
    | some c => prepend c (basicString rest)
    | none => none
  | '\\' :: letter :: rest =>
    match letterEscape? letter with
    | some c => prepend c (basicString rest)
    | none => none
  | c :: rest => if isControl c then none else prepend c (basicString rest)

/-- A string between single quotes. -/
def literalString : List Char → Scanned
  | [] => none
  | '\'' :: rest => some ([], rest)
  | c :: rest => if isControl c then none else prepend c (literalString rest)

def isSpace (c : Char) : Bool :=
  c == ' ' || c == '\t'

/-- The characters after a line end, if one comes next. -/
def lineEnd? : List Char → Option (List Char)
  | '\n' :: rest => some rest
  | '\r' :: '\n' :: rest => some rest
  | _ => none

/-- A line break directly after triple quotes does not belong to the text. -/
def dropFirstLineEnd (chars : List Char) : List Char :=
  (lineEnd? chars).getD chars

/-- A string between triple double quotes. Up to two quotes before the closing ones belong to the
text. After a backslash at the end of a line, line breaks and spaces are skipped up to the next
other character; `skipping` says that this is under way. -/
def basicBlock (skipping : Bool) : List Char → Scanned
  | [] => none
  | '"' :: '"' :: '"' :: '"' :: '"' :: rest => some (['"', '"'], rest)
  | '"' :: '"' :: '"' :: '"' :: rest => some (['"'], rest)
  | '"' :: '"' :: '"' :: rest => some ([], rest)
  | '\\' :: 'x' :: a :: b :: rest =>
    match codeEscape? [a, b] with
    | some c => prepend c (basicBlock false rest)
    | none => none
  | '\\' :: 'u' :: a :: b :: c :: d :: rest =>
    match codeEscape? [a, b, c, d] with
    | some c => prepend c (basicBlock false rest)
    | none => none
  | '\\' :: 'U' :: a :: b :: c :: d :: e :: f :: g :: h :: rest =>
    match codeEscape? [a, b, c, d, e, f, g, h] with
    | some c => prepend c (basicBlock false rest)
    | none => none
  | '\\' :: letter :: rest =>
    match letterEscape? letter with
    | some c => prepend c (basicBlock false rest)
    | none =>
      if (lineEnd? ((letter :: rest).dropWhile isSpace)).isSome then
        basicBlock true (letter :: rest)
      else none
  | '\r' :: '\n' :: rest =>
    if skipping then basicBlock true rest
    else prepend '\r' (prepend '\n' (basicBlock false rest))
  | '\n' :: rest => if skipping then basicBlock true rest else prepend '\n' (basicBlock false rest)
  | c :: rest =>
    if isControl c then none
    else if skipping && isSpace c then basicBlock true rest
    else prepend c (basicBlock false rest)

/-- A string between triple single quotes. Up to two quotes before the closing ones belong to the
text. -/
def literalBlock : List Char → Scanned
  | [] => none
  | '\'' :: '\'' :: '\'' :: '\'' :: '\'' :: rest => some (['\'', '\''], rest)
  | '\'' :: '\'' :: '\'' :: '\'' :: rest => some (['\''], rest)
  | '\'' :: '\'' :: '\'' :: rest => some ([], rest)
  | '\r' :: '\n' :: rest => prepend '\r' (prepend '\n' (literalBlock rest))
  | '\n' :: rest => prepend '\n' (literalBlock rest)
  | c :: rest => if isControl c then none else prepend c (literalBlock rest)

/-- A string in any form, from its opening quotes on. -/
def quotedString : List Char → Scanned
  | '"' :: '"' :: '"' :: rest => basicBlock false (dropFirstLineEnd rest)
  | '"' :: rest => basicString rest
  | '\'' :: '\'' :: '\'' :: rest => literalBlock (dropFirstLineEnd rest)
  | '\'' :: rest => literalString rest
  | _ => none

end FilterQuery.Toml

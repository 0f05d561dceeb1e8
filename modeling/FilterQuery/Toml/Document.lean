import FilterQuery.Toml.Quoted
import FilterQuery.Toml.Scalar
import FilterQuery.Toml.Table

/-!
# TOML documents

A document is a sequence of statements, one a line: headers that open a table and pairs that put a
value under a key of the open table. Inline tables and arrays may spread over lines and end with a
comma. Values may only be nested so deep, and keys may only have so many parts. Arrays of tables are
not read.
-/

namespace FilterQuery.Toml

/-- Characters of keys without quotes. -/
def isBareKeyChar (c : Char) : Bool :=
  c.isAlphanum || c == '_' || c == '-'

/-- One part of a key. -/
def keyPart : List Char → Scanned
  | '"' :: rest => basicString rest
  | '\'' :: rest => literalString rest
  | chars =>
    match chars.takeWhile isBareKeyChar with
    | [] => none
    | bare => some (bare, chars.dropWhile isBareKeyChar)

/-- The number of arrays and inline tables that may be open at once, and of the parts of a key. -/
def maxNesting : Nat :=
  80

/-- A key: one or more parts, at most as many as given, with dots between them. -/
def keyPath : Nat → List Char → Option (List String × List Char)
  | 0, _ => none
  | count + 1, chars =>
    match keyPart chars with
    | none => none
    | some (part, rest) =>
      match rest.dropWhile isSpace with
      | '.' :: more =>
        (keyPath count (more.dropWhile isSpace)).map fun result =>
          (String.ofList part :: result.1, result.2)
      | _ => some ([String.ofList part], rest)

/-- The characters after spaces, line ends and comments. -/
def skipFiller (inComment : Bool) : List Char → Option (List Char)
  | [] => some []
  | '\n' :: rest => skipFiller false rest
  | '\r' :: '\n' :: rest => skipFiller false rest
  | c :: rest =>
    if inComment then (if isControl c then none else skipFiller true rest)
    else if isSpace c then skipFiller false rest
    else if c = '#' then skipFiller true rest
    else some (c :: rest)

/-- The next line, if nothing but spaces and a comment are left on this one. -/
def nextLine? (inComment : Bool) : List Char → Option (List Char)
  | [] => some []
  | '\n' :: rest => some rest
  | '\r' :: '\n' :: rest => some rest
  | c :: rest =>
    if inComment then (if isControl c then none else nextLine? true rest)
    else if isSpace c then nextLine? false rest
    else if c = '#' then nextLine? true rest
    else none

/-- The characters of a value after a key and its equals sign on the same line. -/
def afterEquals? (chars : List Char) : Option (List Char) :=
  match chars.dropWhile isSpace with
  | '=' :: rest => some (rest.dropWhile isSpace)
  | _ => none

/-- The characters of a value after a key of an inline table, where the equals sign may stand on a
line of its own. -/
def afterInlineEquals? (chars : List Char) : Option (List Char) := do
  match ← skipFiller false chars with
  | '=' :: rest => skipFiller false rest
  | _ => none

mutual

/-- A value. At most `room` arrays and inline tables may be nested in it, itself included; `fuel`
bounds the length of all of them. -/
def value (fuel room : Nat) (chars : List Char) : Option (Value × List Char) :=
  match fuel with
  | 0 => none
  | fuel + 1 =>
    match chars, room with
    | '[' :: _, 0 | '\x7b' :: _, 0 => none
    | '[' :: rest, room + 1 => do
      let (items, rest) ← arrayItems fuel room (← skipFiller false rest)
      return (.array items, rest)
    | '\x7b' :: rest, room + 1 => do
      let (entries, rest) ← inlineEntries fuel room [] (← skipFiller false rest)
      return (.table .inline entries, rest)
    | '"' :: _, _ | '\'' :: _, _ => do
      let (text, rest) ← quotedString chars
      return (.string (String.ofList text), rest)
    | _, _ => do
      let (word, rest) := scalarWord chars
      return (← scalar? word, rest)

/-- The items up to the closing bracket of an array. -/
def arrayItems (fuel room : Nat) (chars : List Char) : Option (List Value × List Char) :=
  match fuel with
  | 0 => none
  | fuel + 1 =>
    match chars with
    | ']' :: rest => some ([], rest)
    | _ => do
      let (item, rest) ← value fuel room chars
      match ← skipFiller false rest with
      | ',' :: rest =>
        let (items, rest) ← arrayItems fuel room (← skipFiller false rest)
        return (item :: items, rest)
      | ']' :: rest => return ([item], rest)
      | _ => none

/-- The entries up to the closing brace of an inline table, put after those read so far. -/
def inlineEntries (fuel room : Nat) (entries : Entries) (chars : List Char) :
    Option (Entries × List Char) :=
  match fuel with
  | 0 => none
  | fuel + 1 =>
    match chars with
    | '\x7d' :: rest => some (entries, rest)
    | _ => do
      let (path, rest) ← keyPath maxNesting chars
      let (item, rest) ← value fuel room (← afterInlineEquals? rest)
      let entries ← entries.putPair path item
      match ← skipFiller false rest with
      | ',' :: rest => inlineEntries fuel room entries (← skipFiller false rest)
      | '\x7d' :: rest => return (entries, rest)
      | _ => none

end

/-- A line that is not empty. -/
inductive Statement where
  | header (path : List String)
  | pair (path : List String) (value : Value)
  deriving Repr

/-- The statement at the start of some characters. -/
def statement (fuel : Nat) : List Char → Option (Statement × List Char)
  | '[' :: rest => do
    let (path, rest) ← keyPath maxNesting (rest.dropWhile isSpace)
    match rest.dropWhile isSpace with
    | ']' :: rest => return (.header path, rest)
    | _ => none
  | chars => do
    let (path, rest) ← keyPath maxNesting chars
    let (item, rest) ← value fuel maxNesting (← afterEquals? rest)
    return (.pair path item, rest)

/-- The statements of a document. Each takes at least one character, which bounds `fuel`. -/
def statements (fuel : Nat) (chars : List Char) : Option (List Statement) :=
  match fuel with
  | 0 => none
  | fuel + 1 =>
    if chars.isEmpty then some []
    else
      match nextLine? false chars with
      | some rest => statements fuel rest
      | none => do
        let (first, rest) ← statement fuel (chars.dropWhile isSpace)
        return first :: (← statements fuel (← nextLine? false rest))

/-- A document that has been read in part: the path of the open table and all entries. -/
structure Draft where
  path : List String := []
  entries : Entries := []
  deriving Repr

/-- The document extended by one statement. -/
def Draft.add (draft : Draft) : Statement → Option Draft
  | .header path => (draft.entries.openTable path).map fun entries => ⟨path, entries⟩
  | .pair path value =>
    (draft.entries.updateAt (·.putPair path value) draft.path).map fun entries =>
      ⟨draft.path, entries⟩

/-- The characters of a document without a byte order mark. -/
def dropByteOrderMark : List Char → List Char
  | '\uFEFF' :: rest => rest
  | chars => chars

/-- The entries of a document, or none if it is malformed. -/
def read? (text : String) : Option Entries := do
  let chars := dropByteOrderMark text.toList
  let parts ← statements (chars.length + 1) chars
  let draft ← parts.foldlM Draft.add {}
  return draft.entries

end FilterQuery.Toml

import FilterQuery.Text.Split

/-!
# Paths

A path names a file or directory by the names on the way to it. It also keeps how it was written:
empty parts and single dots name nothing, but stay in the text. Two paths are taken as the same if
they agree in everything but these. Main statement: a path that is read from a text is written as
that text.
-/

namespace FilterQuery

/-- A name on the way of a path, and what stands between it and the name before it. -/
structure PathPart where
  gap : String
  name : String
  deriving DecidableEq, Repr

/-- A path: its parts, the innermost first, and what is written after the last name. -/
structure Path where
  isAbsolute : Bool
  parts : List PathPart
  trailing : String := ""
  deriving DecidableEq, Repr

namespace Path

/-- The characters of some parts, the innermost of which comes last. -/
def partChars : List PathPart → List Char
  | [] => []
  | part :: around => partChars around ++ part.gap.toList ++ part.name.toList

/-- The characters of the path as it is written. -/
def chars (path : Path) : List Char :=
  (if path.isAbsolute then ['/'] else []) ++ partChars path.parts ++ path.trailing.toList

def text (path : Path) : String :=
  String.ofList path.chars

/-- The names of the path, the innermost first. -/
def names (path : Path) : List String :=
  path.parts.map (·.name)

/-- Whether two paths differ at most in how they are written. -/
def isSame (path other : Path) : Bool :=
  path.isAbsolute == other.isAbsolute && path.names == other.names

/-- The directory around what a path names, as far as its text tells. -/
def parent? (path : Path) : Option Path :=
  match path.parts with
  | [] => none
  | _ :: around => some { isAbsolute := path.isAbsolute, parts := around }

/-- The directories around some parts, from the inside out. -/
def around (isAbsolute : Bool) : List PathPart → List Path
  | [] => []
  | _ :: parts => { isAbsolute, parts } :: around isAbsolute parts

/-- A path and the directories around it, from the inside out. -/
def ancestors (path : Path) : List Path :=
  path :: around path.isAbsolute path.parts

/-- What is written between a path and a name below it: a slash, unless the path ends with one or is
empty. -/
def separator (path : Path) : String :=
  if path.chars.getLast? = none ∨ path.chars.getLast? = some '/' then "" else "/"

def child (directory : Path) (name : String) : Path where
  isAbsolute := directory.isAbsolute
  parts := ⟨directory.trailing ++ directory.separator, name⟩ :: directory.parts

/-- Whether a part of a text between slashes names nothing. -/
def isEmptyPart (part : List Char) : Bool :=
  part == [] || part == ['.']

/-- The parts of a text between slashes, put inside those read so far, and what is left after the
last name. `gap` is what stands between the last name and the text. -/
def readParts (parts : List PathPart) (gap : List Char) :
    List (List Char) → List PathPart × List Char
  | [] => (parts, gap)
  | [last] =>
    if isEmptyPart last then (parts, gap ++ last)
    else (⟨String.ofList gap, String.ofList last⟩ :: parts, [])
  | first :: next :: rest =>
    if isEmptyPart first then readParts parts (gap ++ first ++ ['/']) (next :: rest)
    else readParts (⟨String.ofList gap, String.ofList first⟩ :: parts) ['/'] (next :: rest)

/-- The path of a text that does not start with a slash. A dot at its start is a part. -/
def ofRelative : List (List Char) → List PathPart × List Char
  | ['.'] :: [] => ([⟨"", "."⟩], [])
  | ['.'] :: next :: rest => readParts [⟨"", "."⟩] ['/'] (next :: rest)
  | segments => readParts [] [] segments

def ofText (text : String) : Path :=
  let (isAbsolute, (parts, trailing)) :=
    match text.toList with
    | '/' :: body => (true, readParts [] [] (Text.splitAtChar '/' body))
    | body => (false, ofRelative (Text.splitAtChar '/' body))
  ⟨isAbsolute, parts, String.ofList trailing⟩

theorem partChars_readParts (parts : List PathPart) (gap : List Char)
    (segments : List (List Char)) :
    partChars (readParts parts gap segments).1 ++ (readParts parts gap segments).2 =
      partChars parts ++ gap ++ ['/'].intercalate segments := by
  fun_induction readParts parts gap segments <;> simp_all [partChars, List.intercalate]

theorem partChars_ofRelative (segments : List (List Char)) :
    partChars (ofRelative segments).1 ++ (ofRelative segments).2 =
      ['/'].intercalate segments := by
  fun_cases ofRelative segments <;> simp [partChars, partChars_readParts, List.intercalate]

theorem text_ofText (text : String) : (ofText text).text = text := by
  have hchars : ∀ body : List Char, (ofText (String.ofList body)).chars = body := by
    intro body
    simp only [ofText, chars, String.toList_ofList]
    split
    · simp [partChars_readParts, Text.intercalate_splitAtChar, partChars]
    · simp [partChars_ofRelative, Text.intercalate_splitAtChar]
  rw [Path.text, ← String.ofList_toList (s := text), hchars]

/-- The path that is written after a directory, unless it is absolute itself. -/
def join (directory : Path) (written : String) : Path :=
  if written.startsWith "/" then ofText written
  else ofText (directory.text ++ directory.separator ++ written)

/-- The text of the directory around what a text names. The root and the empty path have none. -/
def parentOf? (text : String) : Option String :=
  (ofText text).parent?.map Path.text

end Path

end FilterQuery

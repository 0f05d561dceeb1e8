import FilterQuery.Text.Lines
import FilterQuery.Text.Quoted
import FilterQuery.Text.Search

/-!
# Faults of a query

Everything that can be wrong with a query, as causes. A diagnosis is a fault together with the query
it was found in; rendered, it shows the query with a caret below the place the fault points at, and
a hint where there is one.
-/

namespace FilterQuery

/-- What is wrong with a query. -/
inductive Fault where
  /-- No token starts with the character at the offset. -/
  | unexpectedChar (offset : Nat) (found : Char)
  /-- The grammar allows something else at the offset. -/
  | unexpectedToken (offset : Nat) (expected found : String)
  /-- The group that opens at the offset exceeds the nesting limit. -/
  | tooDeep (offset limit : Nat)
  /-- No rule is known for the key. The known keys are in ascending order. -/
  | unknownKey (key : String) (known : List String)
  /-- The rule of the key refuses the value. -/
  | invalidValue (key value reason : String)
  deriving DecidableEq, Repr

namespace Fault

/-- The byte offset the fault points at, if it points anywhere. -/
def offset? : Fault → Option Nat
  | .unexpectedChar offset _ => some offset
  | .unexpectedToken offset _ _ => some offset
  | .tooDeep offset _ => some offset
  | .unknownKey _ _ => none
  | .invalidValue _ _ _ => none

/-- The cause in one line, without the place. -/
def message : Fault → String
  | .unexpectedChar _ found => "unexpected character " ++ Text.quoteChar found
  | .unexpectedToken _ expected found => "expected " ++ expected ++ ", found " ++ found
  | .tooDeep _ limit => "groups nested deeper than " ++ toString limit ++ " levels"
  | .unknownKey key _ => "unknown key: " ++ key
  | .invalidValue key value reason =>
    "invalid value " ++ Text.quote value ++ " for key '" ++ key ++ "': " ++ reason

/-- The cause and the place in one line. -/
def located (fault : Fault) : String :=
  match fault.offset? with
  | some offset => fault.message ++ " at offset " ++ toString offset
  | none => fault.message

/-- Whether the query is malformed, whatever its keys mean. -/
def isSyntactic : Fault → Bool
  | .unexpectedChar _ _ | .unexpectedToken _ _ _ | .tooDeep _ _ => true
  | .unknownKey _ _ | .invalidValue _ _ _ => false

/-- Given where a group could have been closed. -/
def closeHint : String :=
  "Add a closing parenthesis ) to match the opening one"

/-- Given where a connective has no term beside it. -/
def connectiveHint : String :=
  "AND and OR need a term on both sides, e.g., 'since:2021 OR until:2019'"

/-- Given where a closing parenthesis is out of place. -/
def unmatchedHint : String :=
  "Remove the unmatched closing parenthesis"

/-- What may help to mend the query. -/
def hint? : Fault → Option String
  | .unexpectedChar _ _ =>
    some "Keys use letters and '_'; values use letters, digits, '_' and '-'"
  | .unexpectedToken _ expected found =>
    if Text.contains expected "`)`" then some closeHint
    else if Text.contains found "`AND`" || Text.contains found "`OR`" then some connectiveHint
    else if Text.contains found "`)`" then some unmatchedHint
    else none
  | .tooDeep _ _ => some "Remove redundant parentheses to flatten the query"
  | .unknownKey _ known =>
    if known.isEmpty then none else some ("Valid keys are: " ++ ", ".intercalate known)
  | .invalidValue _ _ reason =>
    if Text.contains reason "date" then some "Dates are written as YYYY, YYYY-MM or YYYY-MM-DD"
    else none

end Fault

/-- The number of characters in the first `count` bytes, unless these end inside a character. -/
def charsInBytes? : Nat → List Char → Option Nat
  | 0, _ => some 0
  | _ + 1, [] => none
  | count + 1, c :: rest =>
    if c.utf8Size ≤ count + 1 then
      (charsInBytes? (count + 1 - c.utf8Size) rest).map (· + 1)
    else none

/-- A fault and, if known, the query it was found in. -/
structure Diagnosis where
  fault : Fault
  query : Option String := none
  deriving DecidableEq, Repr

namespace Diagnosis

/-- The number of characters before the caret. An offset past the end counts as the end; one inside
a character is taken as the column itself. -/
def column (query : String) (offset : Nat) : Nat :=
  let clamped := min offset query.utf8ByteSize
  (charsInBytes? clamped query.toList).getD clamped

/-- The line with the caret. -/
def caretLine (query : String) (offset : Nat) : String :=
  "  " ++ String.ofList (List.replicate (column query offset) ' ') ++ "^\n"

def headline (fault : Fault) : String :=
  (if fault.isSyntactic then "query syntax error: " else "query error: ") ++ fault.message ++ "\n"

/-- The query and, below it, the caret. -/
def excerpt (fault : Fault) (query : String) : String :=
  "  " ++ query ++ "\n" ++
    match fault.offset? with
    | some offset => caretLine query offset
    | none => ""

/-- The whole text shown for a diagnosis. A final hint has no line end of its own. -/
def render (diagnosis : Diagnosis) : String :=
  headline diagnosis.fault ++
    (match diagnosis.query with
      | some query => excerpt diagnosis.fault query
      | none => "") ++
    match diagnosis.fault.hint? with
    | some hint => "hint: " ++ hint
    | none => ""

end Diagnosis

end FilterQuery

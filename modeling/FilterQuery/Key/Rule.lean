import FilterQuery.Filter.Format
import FilterQuery.Filter.Predicate
import FilterQuery.Query.Fault

/-!
# Rules of keys

A rule says what a `key:value` leaf filters on: a field that is bounded by the value at one end, or
a field that equals the value. It also fixes the format of the values it takes.
-/

namespace FilterQuery

inductive RuleKind where
  | range
  | term
  deriving DecidableEq, Repr

/-- The name of the kind in configurations and listings. -/
def RuleKind.name : RuleKind → String
  | .range => "range"
  | .term => "term"

/-- The end of a range that a value sets. -/
inductive BoundSide where
  | lower
  | upper
  deriving DecidableEq, Repr

/-- The name of the side in configurations. -/
def BoundSide.name : BoundSide → String
  | .lower => "lower"
  | .upper => "upper"

/-- What the leaves of a key become. -/
inductive Rule where
  | range (field : String) (side : BoundSide) (inclusive : Bool) (format : ValueFormat)
  | term (field : String) (format : ValueFormat)
  deriving DecidableEq, Repr

namespace Rule

/-- Dates from the value on. -/
def dateFrom (field : String) : Rule :=
  .range field .lower true .date

/-- Dates up to the value. -/
def dateUntil (field : String) : Rule :=
  .range field .upper true .date

def kind : Rule → RuleKind
  | .range _ _ _ _ => .range
  | .term _ _ => .term

def field : Rule → String
  | .range field _ _ _ => field
  | .term field _ => field

def format : Rule → ValueFormat
  | .range _ _ _ format => format
  | .term _ format => format

/-- The filter for a value, whatever its format. -/
def filter (rule : Rule) (value : String) : Filter :=
  match rule with
  | .range field .lower inclusive _ => .range field (some ⟨value, inclusive⟩) none
  | .range field .upper inclusive _ => .range field none (some ⟨value, inclusive⟩)
  | .term field _ => .term field value

/-- The filter of a leaf, unless its value is refused. -/
def compile (rule : Rule) (key value : String) : Except Fault Filter :=
  match rule.format.refusal? value with
  | none => .ok (rule.filter value)
  | some reason => .error (.invalidValue key value reason)

/-- The comparison a range makes. -/
def sign (side : BoundSide) (inclusive : Bool) : String :=
  match side, inclusive with
  | .lower, true => ">="
  | .lower, false => ">"
  | .upper, true => "<="
  | .upper, false => "<"

/-- The filter in one line, with the word `value` for the value. -/
def describe : Rule → String
  | .range field side inclusive _ => field ++ " " ++ sign side inclusive ++ " value"
  | .term field _ => field ++ " = value"

end Rule

end FilterQuery

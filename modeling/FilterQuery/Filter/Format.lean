import FilterQuery.Filter.Calendar
import FilterQuery.Text.Decimal
import FilterQuery.Text.Split

/-!
# Value formats

What the values of a key may look like: calendar dates, whole numbers or any word.
-/

namespace FilterQuery

/-- The form a value must have. -/
inductive ValueFormat where
  /-- `YYYY`, `YYYY-MM` or `YYYY-MM-DD`, and a day that exists. -/
  | date
  /-- A signed 64-bit integer in decimal digits. -/
  | integer
  /-- Anything. -/
  | keyword
  deriving DecidableEq, Repr

namespace ValueFormat

open Text (decimalValue isDigits)

/-- The name of the format in configurations and listings. -/
def name : ValueFormat → String
  | .date => "date"
  | .integer => "integer"
  | .keyword => "keyword"

/-- Year, month and day of a text that has the form of a date. Missing parts are the first. -/
def dateParts? (value : String) : Option (Nat × Nat × Nat) :=
  match Text.splitAtChar '-' value.toList with
  | [year] =>
    if isDigits 4 year then some (decimalValue year, 1, 1) else none
  | [year, month] =>
    if isDigits 4 year && isDigits 2 month then
      some (decimalValue year, decimalValue month, 1)
    else none
  | [year, month, day] =>
    if isDigits 4 year && isDigits 2 month && isDigits 2 day then
      some (decimalValue year, decimalValue month, decimalValue day)
    else none
  | _ => none

/-- Whether a list is a decimal numeral of a number up to `greatest`. -/
def isNumeralUpTo (greatest : Nat) (digits : List Char) : Bool :=
  !digits.isEmpty && digits.all Char.isDigit && decimalValue digits ≤ greatest

/-- Whether a text is a signed 64-bit integer: an optional sign and decimal digits. -/
def isInteger (value : String) : Bool :=
  match value.toList with
  | '-' :: digits => isNumeralUpTo 0x8000000000000000 digits
  | '+' :: digits => isNumeralUpTo 0x7fffffffffffffff digits
  | digits => isNumeralUpTo 0x7fffffffffffffff digits

/-- Why a text has not the form of a date. -/
def dateShapeReason : String :=
  "expected a date as YYYY, YYYY-MM or YYYY-MM-DD"

/-- Why a text in the form of a date is none. -/
def calendarReason (value : String) : String :=
  value ++ " is not a valid calendar date"

/-- The reason to refuse a value, if there is one, where `isDay` tells which days exist. -/
def refusalBy? (isDay : Nat → Nat → Nat → Bool) (format : ValueFormat) (value : String) :
    Option String :=
  match format with
  | .date =>
    match dateParts? value with
    | none => some dateShapeReason
    | some (year, month, day) =>
      if isDay year month day then none else some (calendarReason value)
  | .integer => if isInteger value then none else some "expected an integer"
  | .keyword => none

/-- The reason to refuse a value, if there is one. -/
def refusal? (format : ValueFormat) (value : String) : Option String :=
  refusalBy? isCalendarDay format value

end ValueFormat

end FilterQuery

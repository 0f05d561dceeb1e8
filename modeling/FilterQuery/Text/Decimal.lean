/-!
# Decimal digits
-/

namespace FilterQuery.Text

/-- The value of a list of decimal digits. -/
def decimalValue (digits : List Char) : Nat :=
  digits.foldl (fun value digit => 10 * value + (digit.toNat - '0'.toNat)) 0

/-- Whether a list consists of exactly `width` decimal digits. -/
def isDigits (width : Nat) (chars : List Char) : Bool :=
  chars.length == width && chars.all Char.isDigit

end FilterQuery.Text

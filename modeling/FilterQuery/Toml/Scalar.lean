import FilterQuery.Filter.Calendar
import FilterQuery.Text.Decimal
import FilterQuery.Text.Split
import FilterQuery.Toml.Value

/-!
# Unquoted TOML scalars

Booleans, integers, floats, dates and times are words without quotes. Digits may be grouped by
single underscores between them.
-/

namespace FilterQuery.Toml

open Text (decimalValue isDigits splitAtChar)

/-- Characters of unquoted scalars. -/
def isScalarChar (c : Char) : Bool :=
  c.isAlphanum || c == '_' || c == '+' || c == '-' || c == '.' || c == ':'

/-- The digits of a group notation: underscores stand between two digits each. -/
def ungroup? (isDigit : Char → Bool) : List Char → Option (List Char)
  | [] => none
  | [c] => if isDigit c then some [c] else none
  | c :: '_' :: rest => if isDigit c then (ungroup? isDigit rest).map (c :: ·) else none
  | c :: rest => if isDigit c then (ungroup? isDigit rest).map (c :: ·) else none

/-- The value of a digit up to base 16. -/
def digitValue (c : Char) : Nat :=
  if c.isDigit then c.toNat - '0'.toNat
  else if 'a' ≤ c then c.toNat - 'a'.toNat + 10
  else c.toNat - 'A'.toNat + 10

/-- A numeral in a base whose digits are recognised by `isDigit`. -/
def numeral? (base : Nat) (isDigit : Char → Bool) (chars : List Char) : Option Nat :=
  (ungroup? isDigit chars).map fun digits =>
    digits.foldl (fun number digit => base * number + digitValue digit) 0

/-- A decimal numeral without leading zeros. -/
def decimal? (chars : List Char) : Option Nat :=
  match ungroup? Char.isDigit chars with
  | some ['0'] => some 0
  | some ('0' :: _) => none
  | some digits => some (decimalValue digits)
  | none => none

def isHexDigit (c : Char) : Bool :=
  c.isDigit || ('a' ≤ c && c ≤ 'f') || ('A' ≤ c && c ≤ 'F')

def isOctalDigit (c : Char) : Bool :=
  '0' ≤ c && c ≤ '7'

def isBinaryDigit (c : Char) : Bool :=
  c == '0' || c == '1'

/-- An integer. Only decimal ones may have a sign. -/
def integer? : List Char → Option Int
  | '+' :: rest => (decimal? rest).map Int.ofNat
  | '-' :: rest => (decimal? rest).map fun number => -Int.ofNat number
  | '0' :: 'x' :: rest => (numeral? 16 isHexDigit rest).map Int.ofNat
  | '0' :: 'o' :: rest => (numeral? 8 isOctalDigit rest).map Int.ofNat
  | '0' :: 'b' :: rest => (numeral? 2 isBinaryDigit rest).map Int.ofNat
  | chars => (decimal? chars).map Int.ofNat

/-- Whether the characters announce a base and no digits follow. -/
def isBareBase (chars : List Char) : Bool :=
  chars = ['0', 'x'] || chars = ['0', 'o'] || chars = ['0', 'b']

/-- The characters after a sign, if there is one. -/
def dropSign : List Char → List Char
  | '+' :: rest => rest
  | '-' :: rest => rest
  | chars => chars

/-- Whether the characters are grouped digits, leading zeros allowed. -/
def areDigits (chars : List Char) : Bool :=
  (ungroup? Char.isDigit chars).isSome

/-- Whether the characters are the exponent of a float after its letter. -/
def isExponent (chars : List Char) : Bool :=
  areDigits (dropSign chars)

/-- Whether the characters are a float: a decimal numeral with a fraction, an exponent or both, or a
word for infinity or not-a-number. -/
def isFloat (chars : List Char) : Bool :=
  let unsigned := dropSign chars
  if unsigned = ['i', 'n', 'f'] || unsigned = ['n', 'a', 'n'] then true
  else
    let isExponentLetter := fun c => c == 'e' || c == 'E'
    let mantissa := unsigned.takeWhile fun c => !isExponentLetter c
    let exponentOk :=
      match unsigned.dropWhile fun c => !isExponentLetter c with
      | [] => true
      | _ :: exponent => isExponent exponent
    let hasExponent := unsigned.any isExponentLetter
    match splitAtChar '.' mantissa with
    | [whole] => hasExponent && exponentOk && (decimal? whole).isSome
    | [whole, fraction] => exponentOk && (decimal? whole).isSome && areDigits fraction
    | _ => false

def isDate (chars : List Char) : Bool :=
  match splitAtChar '-' chars with
  | [year, month, day] =>
    isDigits 4 year && isDigits 2 month && isDigits 2 day &&
      isCalendarDay (decimalValue year) (decimalValue month) (decimalValue day)
  | _ => false

/-- Whether the characters are two digits of a number below `bound`. -/
def isPairBelow (bound : Nat) (chars : List Char) : Bool :=
  isDigits 2 chars && decimalValue chars < bound

/-- Whether the characters are the seconds of a time, a fraction allowed. -/
def isSeconds (chars : List Char) : Bool :=
  match splitAtChar '.' chars with
  | [whole] => isPairBelow 61 whole
  | [whole, fraction] => isPairBelow 61 whole && !fraction.isEmpty && fraction.all Char.isDigit
  | _ => false

/-- Whether the characters are a time of the day; seconds may be missing. -/
def isTime (chars : List Char) : Bool :=
  match splitAtChar ':' chars with
  | [hour, minute] => isPairBelow 24 hour && isPairBelow 60 minute
  | [hour, minute, second] => isPairBelow 24 hour && isPairBelow 60 minute && isSeconds second
  | _ => false

/-- Whether the characters are a time with or without an offset from universal time. -/
def isOffsetTime (chars : List Char) : Bool :=
  let isOffsetStart := fun c => c == 'Z' || c == 'z' || c == '+' || c == '-'
  isTime (chars.takeWhile fun c => !isOffsetStart c) &&
    match chars.dropWhile fun c => !isOffsetStart c with
    | [] => true
    | sign :: offset =>
      if sign == 'Z' || sign == 'z' then offset.isEmpty
      else
        match splitAtChar ':' offset with
        | [hour, minute] => isPairBelow 24 hour && isPairBelow 60 minute
        | _ => false

/-- Whether the characters are a date, a time or both. -/
def isDateTime (chars : List Char) : Bool :=
  isTime chars || isDate (chars.take 10) &&
    match chars.drop 10 with
    | [] => true
    | separator :: time => (separator == 'T' || separator == 't') && isOffsetTime time

/-- The value of an unquoted scalar. -/
def scalar? (word : List Char) : Option Value :=
  if word = ['t', 'r', 'u', 'e'] then some (.boolean true)
  else if word = ['f', 'a', 'l', 's', 'e'] then some (.boolean false)
  else
    match integer? word with
    | some number => some (.integer number)
    | none =>
      if isBareBase word || isFloat word || isDateTime word then some .uninterpreted else none

/-- The characters of an unquoted scalar and those that follow it. A blank between a date and a time
belongs to the scalar. -/
def scalarWord (chars : List Char) : List Char × List Char :=
  let word := chars.takeWhile isScalarChar
  let rest := chars.dropWhile isScalarChar
  match rest with
  | ' ' :: next :: more =>
    if isDate word && next.isDigit then
      (word ++ 'T' :: (next :: more).takeWhile isScalarChar, (next :: more).dropWhile isScalarChar)
    else (word, rest)
  | _ => (word, rest)

end FilterQuery.Toml

import FilterQuery.Text.Unprintable

/-!
# Quoted text

Messages show characters and values between quotes with everything invisible escaped, so that what
was typed can be read off the message.
-/

namespace FilterQuery.Text

/-- A lower-case hexadecimal numeral without leading zeros. -/
def hexDigits (value : Nat) : String :=
  String.ofList (Nat.toDigits 16 value)

/-- The escape of a character between `delimiter`s. A quote that is not the delimiter stands for
itself. -/
def escapeChar (delimiter c : Char) : String :=
  if c = '\x00' then "\\0"
  else if c = '\t' then "\\t"
  else if c = '\n' then "\\n"
  else if c = '\r' then "\\r"
  else if c = '\\' then "\\\\"
  else if c = delimiter then String.ofList ['\\', delimiter]
  else if isUnprintable c then "\\u\x7b" ++ hexDigits c.toNat ++ "\x7d"
  else c.toString

/-- A character between single quotes. -/
def quoteChar (c : Char) : String :=
  "'" ++ escapeChar '\'' c ++ "'"

/-- A text between double quotes. -/
def quote (text : String) : String :=
  "\"" ++ String.join (text.toList.map (escapeChar '"')) ++ "\""

end FilterQuery.Text

/-!
# TOML values

The values of a TOML document. Numbers with a fraction, dates and times are recognised but not
interpreted. A table remembers how it came to be, which decides how it may still be extended.
-/

namespace FilterQuery.Toml

inductive Origin where
  /-- Written between braces: complete. -/
  | inline
  /-- Opened by its own header. -/
  | header
  /-- Passed through by the header of a table below it. -/
  | implicit
  /-- Passed through by a dotted key. -/
  | dotted
  deriving DecidableEq, Repr

inductive Value where
  | string (text : String)
  | integer (number : Int)
  | boolean (value : Bool)
  /-- A float, a date, a time, or a base of an integer without digits. -/
  | uninterpreted
  | array (items : List Value)
  | table (origin : Origin) (entries : List (String × Value))
  deriving Repr

/-- The entries of a table in the order of their first mention. -/
abbrev Entries := List (String × Value)

end FilterQuery.Toml

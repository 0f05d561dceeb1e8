/-!
# Calendar days

The days of the Gregorian calendar, extended to all years.
-/

namespace FilterQuery

/-- Whether a year has a 29 February. -/
def isLeapYear (year : Nat) : Bool :=
  year % 4 == 0 && (year % 100 != 0 || year % 400 == 0)

/-- The number of days of a month, zero for a month that does not exist. -/
def daysInMonth (year month : Nat) : Nat :=
  match month with
  | 2 => if isLeapYear year then 29 else 28
  | 4 | 6 | 9 | 11 => 30
  | 1 | 3 | 5 | 7 | 8 | 10 | 12 => 31
  | _ => 0

def isCalendarDay (year month day : Nat) : Bool :=
  1 ≤ day && day ≤ daysInMonth year month

end FilterQuery

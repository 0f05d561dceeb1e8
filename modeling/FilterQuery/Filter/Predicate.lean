import FilterQuery.Json

/-!
# Filters

A filter is the predicate of one leaf: a field lies in a range, or it equals a term.
-/

namespace FilterQuery

/-- One end of a range. -/
structure Bound where
  value : String
  inclusive : Bool
  deriving DecidableEq, Repr

/-- A predicate on one field. A range without a bound is open at that end. -/
inductive Filter where
  | range (field : String) (lower upper : Option Bound)
  | term (field value : String)
  deriving DecidableEq, Repr

namespace Filter

def field : Filter → String
  | .range field _ _ => field
  | .term field _ => field

/-- A bound's value; the backend reads null as unbounded. -/
def boundValue : Option Bound → Json
  | some bound => .str bound.value
  | none => .null

/-- A bound's inclusivity; an open end counts as inclusive. -/
def boundInclusive : Option Bound → Json
  | some bound => .bool bound.inclusive
  | none => .bool true

/-- The backend query of the filter. -/
def toJson : Filter → Json
  | .range field lower upper =>
    .obj [("range", .obj [(field, .obj
      [("from", boundValue lower), ("include_lower", boundInclusive lower),
        ("include_upper", boundInclusive upper), ("to", boundValue upper)])])]
  | .term field value => .obj [("term", .obj [(field, .str value)])]

/-- The comparison of a lower bound. -/
def lowerSign (inclusive : Bool) : String :=
  if inclusive then ">=" else ">"

def upperSign (inclusive : Bool) : String :=
  if inclusive then "<=" else "<"

/-- The filter as a comparison. -/
def display : Filter → String
  | .range field lower upper =>
    field ++
      (match lower with
        | some bound => " " ++ lowerSign bound.inclusive ++ " " ++ bound.value
        | none => "") ++
      match upper with
      | some bound => " " ++ upperSign bound.inclusive ++ " " ++ bound.value
      | none => ""
  | .term field value => field ++ " = " ++ value

end Filter

end FilterQuery

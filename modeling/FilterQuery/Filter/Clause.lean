import FilterQuery.Filter.Predicate

/-!
# Compiled queries

A compiled query is a tree of clauses: filters, combined by nodes that ask for all of their clauses
or for a minimum number of them.
-/

namespace FilterQuery

/-- A compiled query. -/
inductive Clause where
  | filter (predicate : Filter)
  /-- Every clause must match. -/
  | all (clauses : List Clause)
  /-- At least `minimum` clauses must match. -/
  | any (minimum : Nat) (clauses : List Clause)
  deriving Repr

namespace Clause

mutual

/-- The filters from left to right. -/
def filters : Clause → List Filter
  | .filter predicate => [predicate]
  | .all clauses => filtersOf clauses
  | .any _ clauses => filtersOf clauses

def filtersOf : List Clause → List Filter
  | [] => []
  | clause :: rest => clause.filters ++ filtersOf rest

end

/-- All of some clauses: a single clause stands for itself. -/
def joinAll : List Clause → Clause
  | [clause] => clause
  | clauses => .all clauses

/-- One of some clauses: a single clause stands for itself. -/
def joinAny : List Clause → Clause
  | [clause] => clause
  | clauses => .any 1 clauses

mutual

def filterCount : Clause → Nat
  | .filter _ => 1
  | .all clauses => filterCountOf clauses
  | .any _ clauses => filterCountOf clauses

def filterCountOf : List Clause → Nat
  | [] => 0
  | clause :: rest => clause.filterCount + filterCountOf rest

end

mutual

theorem filterCount_eq_length : (clause : Clause) → clause.filterCount = clause.filters.length
  | .filter _ => rfl
  | .all clauses => filterCountOf_eq_length clauses
  | .any _ clauses => filterCountOf_eq_length clauses

theorem filterCountOf_eq_length :
    (clauses : List Clause) → filterCountOf clauses = (filtersOf clauses).length
  | [] => rfl
  | clause :: rest => by
    rw [filterCountOf, filtersOf, List.length_append, filterCount_eq_length clause,
      filterCountOf_eq_length rest]

end

mutual

/-- The backend query. -/
def toJson : Clause → Json
  | .filter predicate => predicate.toJson
  | .all clauses => .obj [("bool", .obj [("filter", .arr (jsonItems clauses))])]
  | .any minimum clauses =>
    .obj [("bool", .obj
      [("minimum_should_match", .num minimum), ("should", .arr (jsonItems clauses))])]

def jsonItems : List Clause → List Json
  | [] => []
  | clause :: rest => clause.toJson :: jsonItems rest

end

mutual

/-- The lines of a clause at a level. -/
def listingLines (level : Nat) : Clause → List String
  | .filter predicate => [Text.indentation level ++ "Filter(" ++ predicate.display ++ ")"]
  | .all clauses => (Text.indentation level ++ "MustAll") :: clauseLines (level + 1) clauses
  | .any minimum clauses =>
    (Text.indentation level ++ "ShouldAny(min " ++ toString minimum ++ ")") ::
      clauseLines (level + 1) clauses

def clauseLines (level : Nat) : List Clause → List String
  | [] => []
  | clause :: rest => clause.listingLines level ++ clauseLines level rest

end

/-- One node a line, indented by its level. -/
def listing (clause : Clause) : String :=
  Text.unlines (clause.listingLines 0)

end Clause

end FilterQuery

import FilterQuery.Filter.Clause

/-!
# What compiled queries mean

A compiled query matches or not once it is known which filters hold. The same is said of backend
queries, by a reading of their JSON that knows nothing of how it was written: members of an object
may come in any order. The backend query of a compiled query matches exactly where the compiled
query does.
-/

namespace FilterQuery

namespace Clause

mutual

/-- Whether a compiled query matches, given which filters hold. -/
def eval (holds : Filter → Bool) : Clause → Bool
  | .filter predicate => holds predicate
  | .all clauses => (verdicts holds clauses).all id
  | .any minimum clauses => minimum ≤ (verdicts holds clauses).count true

/-- Which of several clauses match. -/
def verdicts (holds : Filter → Bool) : List Clause → List Bool
  | [] => []
  | clause :: rest => clause.eval holds :: verdicts holds rest

end

end Clause

namespace Json

/-- One end of a range, from its value and its flag. A null leaves the range open. -/
def bound? : Option Json → Option Json → Option (Option Bound)
  | some .null, some (.bool _) => some none
  | some (.str value), some (.bool inclusive) => some (some ⟨value, inclusive⟩)
  | _, _ => none

/-- The filter of a range query: its field, and the bounds with their flags. -/
def range? (field : String) (members : List (String × Json)) : Option Filter := do
  let lower ← bound? (members.lookup "from") (members.lookup "include_lower")
  let upper ← bound? (members.lookup "to") (members.lookup "include_upper")
  return .range field lower upper

/-- How many of the `should` clauses a bool query asks for. -/
def minimum? (members : List (String × Json)) : Option Nat :=
  match members.lookup "minimum_should_match" with
  | some (.num minimum) => some minimum
  | _ => none

mutual

/-- Whether a backend query matches, given which filters hold. Other JSON is no query. -/
def eval? (holds : Filter → Bool) : Json → Option Bool
  | .obj [("bool", .obj members)] => evalBool? holds (minimum? members) members
  | .obj [("range", .obj [(field, .obj members)])] => (range? field members).map holds
  | .obj [("term", .obj [(field, .str value)])] => some (holds (.term field value))
  | _ => none

/-- Whether a bool query matches: every `filter` clause does, and at least `minimum` of the `should`
clauses. -/
def evalBool? (holds : Filter → Bool) (minimum : Option Nat) : List (String × Json) → Option Bool
  | [] => some true
  | ("filter", .arr clauses) :: rest => do
    let verdicts ← verdicts? holds clauses
    return verdicts.all id && (← evalBool? holds minimum rest)
  | ("should", .arr clauses) :: rest => do
    let verdicts ← verdicts? holds clauses
    return decide ((← minimum) ≤ verdicts.count true) && (← evalBool? holds minimum rest)
  | ("minimum_should_match", .num _) :: rest => evalBool? holds minimum rest
  | _ => none

/-- Which of several backend queries match. -/
def verdicts? (holds : Filter → Bool) : List Json → Option (List Bool)
  | [] => some []
  | item :: rest => do
    let verdict ← item.eval? holds
    return verdict :: (← verdicts? holds rest)

end

end Json

variable (holds : Filter → Bool)

theorem Clause.verdicts_eq_map (clauses : List Clause) :
    verdicts holds clauses = clauses.map (eval holds) := by
  induction clauses with
  | nil => rfl
  | cons clause rest ih => rw [verdicts, ih, List.map_cons]

/-- Several clauses joined to one ask for all of them. -/
theorem Clause.eval_joinAll (clauses : List Clause) :
    (joinAll clauses).eval holds = clauses.all (eval holds) := by
  match clauses with
  | [] => rfl
  | [clause] => simp [joinAll]
  | clause :: second :: rest => simp [joinAll, eval, verdicts_eq_map]

/-- Several clauses joined to one ask for some of them. -/
theorem Clause.eval_joinAny (clauses : List Clause) :
    (joinAny clauses).eval holds = clauses.any (eval holds) := by
  match clauses with
  | [] => rfl
  | [clause] => simp [joinAny]
  | clause :: second :: rest =>
    -- At least one clause matches if those that match can be counted.
    rw [Bool.eq_iff_iff]
    simp only [joinAny, eval, verdicts_eq_map, decide_eq_true_eq, Nat.succ_le_iff,
      List.count_pos_iff, List.mem_map, List.any_eq_true]

theorem Json.range?_toJson (field : String) (lower upper : Option Bound) :
    range? field [("from", Filter.boundValue lower), ("include_lower", Filter.boundInclusive lower),
      ("include_upper", Filter.boundInclusive upper), ("to", Filter.boundValue upper)] =
        some (.range field lower upper) := by
  cases lower <;> cases upper <;> rfl

theorem Filter.eval?_toJson (filter : Filter) :
    filter.toJson.eval? holds = some (holds filter) := by
  cases filter with
  | range field lower upper =>
    rw [toJson, Json.eval?, Json.range?_toJson]
    rfl
  | term field value => rfl

mutual

/-- The backend query matches where the compiled query does. -/
theorem Clause.eval?_toJson (clause : Clause) :
    clause.toJson.eval? holds = some (clause.eval holds) := by
  match clause with
  | .filter predicate => exact Filter.eval?_toJson holds predicate
  | .all clauses =>
    rw [toJson, Json.eval?, Json.evalBool?, verdicts?_jsonItems clauses]
    simp [Json.evalBool?, eval]
  | .any minimum clauses =>
    have hminimum : Json.minimum? [("minimum_should_match", .num minimum),
        ("should", .arr (jsonItems clauses))] = some minimum := rfl
    rw [toJson, Json.eval?, hminimum, Json.evalBool?, Json.evalBool?, verdicts?_jsonItems clauses]
    simp [Json.evalBool?, eval]

theorem Clause.verdicts?_jsonItems (clauses : List Clause) :
    Json.verdicts? holds (jsonItems clauses) = some (verdicts holds clauses) := by
  match clauses with
  | [] => rfl
  | clause :: rest =>
    rw [jsonItems, Json.verdicts?, eval?_toJson clause, verdicts?_jsonItems rest]
    rfl

end

end FilterQuery

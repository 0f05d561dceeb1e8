/-!
# Query trees

A query is a disjunction of conjunctions of terms; a term is a `key:value` leaf or a disjunction in
parentheses. Operand lists are never empty, which their constructors ensure, and a list with one
operand is kept as such.
-/

namespace FilterQuery

mutual

/-- A leaf or a group in parentheses. -/
inductive Term where
  | leaf (key value : String)
  | group (inner : Disjunction)
  deriving DecidableEq, Repr

/-- One or more terms joined by `AND`. -/
inductive Conjunction where
  | one (term : Term)
  | and (term : Term) (rest : Conjunction)
  deriving DecidableEq, Repr

/-- One or more conjunctions joined by `OR`: a whole query. -/
inductive Disjunction where
  | one (operand : Conjunction)
  | or (operand : Conjunction) (rest : Disjunction)
  deriving DecidableEq, Repr

end

/-- The terms in the order they are written. -/
def Conjunction.operands : Conjunction → List Term
  | .one term => [term]
  | .and term rest => term :: rest.operands

def Disjunction.operands : Disjunction → List Conjunction
  | .one operand => [operand]
  | .or operand rest => operand :: rest.operands

/-- The conjunction of some terms, unless there are none. -/
def Conjunction.ofOperands? : List Term → Option Conjunction
  | [] => none
  | term :: rest =>
    match ofOperands? rest with
    | none => some (.one term)
    | some conjunction => some (.and term conjunction)

def Disjunction.ofOperands? : List Conjunction → Option Disjunction
  | [] => none
  | operand :: rest =>
    match ofOperands? rest with
    | none => some (.one operand)
    | some disjunction => some (.or operand disjunction)

theorem Conjunction.ofOperands?_operands (conjunction : Conjunction) :
    ofOperands? conjunction.operands = some conjunction := by
  match conjunction with
  | .one term => rfl
  | .and term rest => simp [operands, ofOperands?, ofOperands?_operands rest]

theorem Disjunction.ofOperands?_operands (disjunction : Disjunction) :
    ofOperands? disjunction.operands = some disjunction := by
  match disjunction with
  | .one operand => rfl
  | .or operand rest => simp [operands, ofOperands?, ofOperands?_operands rest]

mutual

/-- How deep the groups of a term nest. -/
def Term.depth : Term → Nat
  | .leaf _ _ => 0
  | .group inner => inner.depth + 1

def Conjunction.depth : Conjunction → Nat
  | .one term => term.depth
  | .and term rest => max term.depth rest.depth

def Disjunction.depth : Disjunction → Nat
  | .one operand => operand.depth
  | .or operand rest => max operand.depth rest.depth

end

mutual

/-- The keys and values of a term in the order they are written. -/
def Term.leaves : Term → List (String × String)
  | .leaf key value => [(key, value)]
  | .group inner => inner.leaves

def Conjunction.leaves : Conjunction → List (String × String)
  | .one term => term.leaves
  | .and term rest => term.leaves ++ rest.leaves

def Disjunction.leaves : Disjunction → List (String × String)
  | .one operand => operand.leaves
  | .or operand rest => operand.leaves ++ rest.leaves

end

end FilterQuery

import FilterQuery.Proofs.Compiler.Steps
import FilterQuery.Proofs.Filter.Meaning

/-!
# Compiling keeps the meaning

A query tree is a formula over the filters of its leaves. Its compiled query, and the backend query
written for that, match exactly where the formula is true, whichever filters hold.
-/

namespace FilterQuery

/-- Whether a leaf is true: whether the filter does that the rule of its key makes of its value. -/
def KeyTable.leafHolds (table : KeyTable) (holds : Filter → Bool) (key value : String) : Bool :=
  (table.rule? key).any fun rule => holds (rule.filter value)

mutual

/-- Whether a term is true; a group is what stands in it. -/
def Term.eval (table : KeyTable) (holds : Filter → Bool) : Term → Bool
  | .leaf key value => table.leafHolds holds key value
  | .group inner => inner.eval table holds

/-- Whether a conjunction is true: every term is. -/
def Conjunction.eval (table : KeyTable) (holds : Filter → Bool) : Conjunction → Bool
  | .one term => term.eval table holds
  | .and term rest => term.eval table holds && rest.eval table holds

/-- Whether a disjunction is true: some operand is. -/
def Disjunction.eval (table : KeyTable) (holds : Filter → Bool) : Disjunction → Bool
  | .one operand => operand.eval table holds
  | .or operand rest => operand.eval table holds || rest.eval table holds

end

variable {table : KeyTable} (holds : Filter → Bool)

theorem KeyTable.holds_compileLeaf {key value : String} {filter : Filter}
    (hcompile : table.compileLeaf key value = .ok filter) :
    holds filter = table.leafHolds holds key value := by
  obtain ⟨rule, hrule, _, rfl⟩ := compileLeaf_eq_ok_iff.1 hcompile
  rw [leafHolds, hrule, Option.any_some]

mutual

theorem Term.eval_compileTerm {term : Term} {clause : Clause}
    (hcompile : table.compileTerm term = .ok clause) :
    clause.eval holds = term.eval table holds := by
  match term with
  | .leaf key value =>
    obtain ⟨filter, hfilter, rfl⟩ := KeyTable.compileTerm_leaf_eq_ok_iff.1 hcompile
    rw [Clause.eval, Term.eval, KeyTable.holds_compileLeaf holds hfilter]
  | .group inner =>
    obtain ⟨clauses, hclauses, rfl⟩ := KeyTable.compileTerm_group_eq_ok_iff.1 hcompile
    rw [Clause.eval_joinAny, Term.eval, Disjunction.any_compileOperands hclauses]

theorem Conjunction.all_compileTerms {conjunction : Conjunction} {clauses : List Clause}
    (hcompile : table.compileTerms conjunction = .ok clauses) :
    clauses.all (Clause.eval holds) = conjunction.eval table holds := by
  match conjunction with
  | .one term =>
    obtain ⟨clause, hclause, rfl⟩ := KeyTable.compileTerms_one_eq_ok_iff.1 hcompile
    rw [List.all_cons, List.all_nil, Bool.and_true, Conjunction.eval, Term.eval_compileTerm hclause]
  | .and term rest =>
    obtain ⟨clause, others, hclause, hothers, rfl⟩ :=
      KeyTable.compileTerms_and_eq_ok_iff.1 hcompile
    rw [List.all_cons, Conjunction.eval, Term.eval_compileTerm hclause,
      Conjunction.all_compileTerms hothers]

theorem Disjunction.any_compileOperands {tree : Disjunction} {clauses : List Clause}
    (hcompile : table.compileOperands tree = .ok clauses) :
    clauses.any (Clause.eval holds) = tree.eval table holds := by
  match tree with
  | .one operand =>
    obtain ⟨terms, hterms, rfl⟩ := KeyTable.compileOperands_one_eq_ok_iff.1 hcompile
    rw [List.any_cons, List.any_nil, Bool.or_false, Clause.eval_joinAll, Disjunction.eval,
      Conjunction.all_compileTerms hterms]
  | .or operand rest =>
    obtain ⟨terms, others, hterms, hothers, rfl⟩ :=
      KeyTable.compileOperands_or_eq_ok_iff.1 hcompile
    rw [List.any_cons, Clause.eval_joinAll, Disjunction.eval,
      Conjunction.all_compileTerms hterms, Disjunction.any_compileOperands hothers]

end

/-- Compiling keeps the meaning: the formula of the tree, the compiled query and the backend query
written for it are true together, whichever filters hold. -/
theorem KeyTable.eval_compile {tree : Disjunction} {clause : Clause}
    (hcompile : table.compile tree = .ok clause) :
    clause.eval holds = tree.eval table holds ∧
      clause.toJson.eval? holds = some (tree.eval table holds) := by
  obtain ⟨clauses, hclauses, rfl⟩ := compile_eq_ok_iff.1 hcompile
  have heval : (Clause.joinAny clauses).eval holds = tree.eval table holds := by
    rw [Clause.eval_joinAny, Disjunction.any_compileOperands holds hclauses]
  refine ⟨heval, ?_⟩
  rw [Clause.eval?_toJson, heval]

/-- A group and a leaf, where every filter holds but that of the second date. -/
theorem KeyTable.eval_compile_dates :
    let tree : Disjunction := .one (.and (.group (.or (.one (.leaf "since" "2021"))
      (.one (.one (.leaf "until" "2019"))))) (.one (.leaf "until" "2024")))
    let holds (filter : Filter) : Bool := filter != .range createdAt none (some ⟨"2019", true⟩)
    ∃ clause, builtin.compile tree = .ok clause ∧ clause.eval holds = true ∧
      clause.toJson.eval? holds = some true := by
  intro tree holds
  have hcompile : builtin.compile tree = .ok _ := rfl
  have htree : tree.eval builtin holds = true := by decide
  have hmeaning := eval_compile holds hcompile
  rw [htree] at hmeaning
  exact ⟨_, hcompile, hmeaning⟩

end FilterQuery

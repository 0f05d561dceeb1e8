import FilterQuery.Proofs.Compiler.Leaves
import FilterQuery.Proofs.Query.Parentheses

/-!
# What the compiler forgets

Trees that differ in redundant parentheses alone compile alike, and no other trees do, as long as
different leaves have different filters.
-/

namespace FilterQuery

/-! ## Equivalent trees compile alike -/

namespace KeyTable

variable (table : KeyTable)

/-- The clause of a conjunction. -/
def compileConjunction (conjunction : Conjunction) : Except Fault Clause :=
  .joinAll <$> table.compileTerms conjunction

theorem compileTerms_eq_mapM (conjunction : Conjunction) :
    table.compileTerms conjunction = conjunction.operands.mapM table.compileTerm := by
  cases conjunction with
  | one term => simp [compileTerms, Conjunction.operands]
  | and term rest => simp [compileTerms, Conjunction.operands, compileTerms_eq_mapM rest]

theorem compileOperands_eq_mapM (tree : Disjunction) :
    table.compileOperands tree = tree.operands.mapM table.compileConjunction := by
  cases tree with
  | one operand => simp [compileOperands, Disjunction.operands, compileConjunction]
  | or operand rest =>
    simp [compileOperands, Disjunction.operands, compileConjunction, compileOperands_eq_mapM rest]

end KeyTable

variable {table : KeyTable}

mutual

theorem Term.Equivalent.compileTerm_eq {left right : Term} (h : left.Equivalent right) :
    table.compileTerm left = table.compileTerm right := by
  match h with
  | .refl _ => rfl
  | .symm h => exact (Term.Equivalent.compileTerm_eq h).symm
  | .trans hleft hright =>
    exact (Term.Equivalent.compileTerm_eq hleft).trans (Term.Equivalent.compileTerm_eq hright)
  | .parentheses _ =>
    simp [KeyTable.compileTerm, KeyTable.compileOperands, KeyTable.compileTerms]
  | .group hinner => exact Disjunction.Equivalent.compile_eq hinner

theorem Conjunction.Equivalent.compileConjunction_eq {left right : Conjunction}
    (h : left.Equivalent right) :
    table.compileConjunction left = table.compileConjunction right := by
  match h with
  | .refl _ => rfl
  | .symm h => exact (Conjunction.Equivalent.compileConjunction_eq h).symm
  | .trans hleft hright =>
    exact (Conjunction.Equivalent.compileConjunction_eq hleft).trans
      (Conjunction.Equivalent.compileConjunction_eq hright)
  | .parentheses _ =>
    simp [KeyTable.compileConjunction, KeyTable.compileTerms, KeyTable.compileTerm,
      KeyTable.compileOperands]
  | .operand hterm hleft hright =>
    rw [KeyTable.compileConjunction, KeyTable.compileConjunction, KeyTable.compileTerms_eq_mapM,
      KeyTable.compileTerms_eq_mapM, hleft, hright]
    simp only [List.mapM_append, List.mapM_cons, Term.Equivalent.compileTerm_eq hterm]

theorem Disjunction.Equivalent.compile_eq {left right : Disjunction} (h : left.Equivalent right) :
    table.compile left = table.compile right := by
  match h with
  | .refl _ => rfl
  | .symm h => exact (Disjunction.Equivalent.compile_eq h).symm
  | .trans hleft hright =>
    exact (Disjunction.Equivalent.compile_eq hleft).trans (Disjunction.Equivalent.compile_eq hright)
  | .parentheses _ =>
    simp [KeyTable.compile, KeyTable.compileTerms, KeyTable.compileTerm, KeyTable.compileOperands]
  | .operand hoperand hleft hright =>
    rw [KeyTable.compile, KeyTable.compile, KeyTable.compileOperands_eq_mapM,
      KeyTable.compileOperands_eq_mapM, hleft, hright]
    simp only [List.mapM_append, List.mapM_cons,
      Conjunction.Equivalent.compileConjunction_eq hoperand]

end

/-! ## Trees that compile alike are equivalent -/

variable (table)

/-- The clause of what stands in redundant parentheses. -/
def KeyTable.compileBare : Bare → Except Fault Clause
  | .leaf key value => .filter <$> table.compileLeaf key value
  | .conjunction terms => .all <$> table.compileTerms terms
  | .disjunction operands => .any 1 <$> table.compileOperands operands

variable {table}

theorem Clause.joinAll_of_several {clauses : List Clause} (hseveral : 2 ≤ clauses.length) :
    joinAll clauses = .all clauses := by
  match clauses with
  | _ :: _ :: _ => rfl

theorem Clause.joinAny_of_several {clauses : List Clause} (hseveral : 2 ≤ clauses.length) :
    joinAny clauses = .any 1 clauses := by
  match clauses with
  | _ :: _ :: _ => rfl

theorem KeyTable.several_of_compileTerms {term : Term} {rest : Conjunction} {clauses : List Clause}
    (hcompile : table.compileTerms (.and term rest) = .ok clauses) : 2 ≤ clauses.length := by
  obtain ⟨clause, others, _, hothers, rfl⟩ := compileTerms_and_eq_ok_iff.1 hcompile
  have hothers := List.length_pos_iff.2 (Conjunction.collapsed_compileTerms hothers).1
  rw [List.length_cons]
  omega

theorem KeyTable.several_of_compileOperands {operand : Conjunction} {rest : Disjunction}
    {clauses : List Clause} (hcompile : table.compileOperands (.or operand rest) = .ok clauses) :
    2 ≤ clauses.length := by
  obtain ⟨terms, others, _, hothers, rfl⟩ := compileOperands_or_eq_ok_iff.1 hcompile
  have hothers := List.length_pos_iff.2 (Disjunction.collapsed_compileOperands hothers).1
  rw [List.length_cons]
  omega

mutual

theorem Term.compileBare_bare (term : Term) :
    table.compileBare term.bare = table.compileTerm term := by
  match term with
  | .leaf key value => simp [Term.bare, KeyTable.compileBare, KeyTable.compileTerm]
  | .group inner => exact Disjunction.compileBare_bare inner

theorem Conjunction.compileBare_bare (conjunction : Conjunction) :
    table.compileBare conjunction.bare = table.compileConjunction conjunction := by
  match conjunction with
  | .one term =>
    rw [Conjunction.bare, Term.compileBare_bare term]
    simp [KeyTable.compileConjunction, KeyTable.compileTerms]
  | .and term rest =>
    rw [Conjunction.bare, KeyTable.compileBare, KeyTable.compileConjunction]
    cases hcompile : table.compileTerms (.and term rest) with
    | error fault => rfl
    | ok clauses =>
      have hseveral := KeyTable.several_of_compileTerms hcompile
      exact congrArg Except.ok (Clause.joinAll_of_several hseveral).symm

theorem Disjunction.compileBare_bare (tree : Disjunction) :
    table.compileBare tree.bare = table.compile tree := by
  match tree with
  | .one operand =>
    rw [Disjunction.bare, Conjunction.compileBare_bare operand]
    simp [KeyTable.compileConjunction, KeyTable.compile, KeyTable.compileOperands]
  | .or operand rest =>
    rw [Disjunction.bare, KeyTable.compileBare, KeyTable.compile]
    cases hcompile : table.compileOperands (.or operand rest) with
    | error fault => rfl
    | ok clauses =>
      have hseveral := KeyTable.several_of_compileOperands hcompile
      exact congrArg Except.ok (Clause.joinAny_of_several hseveral).symm

end

namespace KeyTable

variable {leaves : List (String × String)}

/-- No two of the leaves compile alike. -/
def TellsApart (table : KeyTable) (leaves : List (String × String)) : Prop :=
  ∀ leaf ∈ leaves, ∀ other ∈ leaves,
    table.compileLeaf leaf.1 leaf.2 = table.compileLeaf other.1 other.2 → leaf = other

/-- Both sides compile operand by operand, so the operands of one clause are compared in turn. -/
theorem bare_equivalent_of_compileBare (hapart : table.TellsApart leaves) (clause : Clause)
    {left right : Bare} (hleft : table.compileBare left = .ok clause)
    (hright : table.compileBare right = .ok clause) (hleftLeaves : left.leaves ⊆ leaves)
    (hrightLeaves : right.leaves ⊆ leaves) : left.Equivalent right := by
  match left, right with
  | .leaf key value, .leaf other otherValue =>
    obtain ⟨filter, hfilter, rfl⟩ := map_eq_ok_iff.1 hleft
    obtain ⟨_, hother, hsame⟩ := map_eq_ok_iff.1 hright
    cases hsame
    have hleaf := hapart (key, value) (hleftLeaves List.mem_cons_self) (other, otherValue)
      (hrightLeaves List.mem_cons_self) (hfilter.trans hother.symm)
    cases hleaf
    exact .leaf key value
  | .conjunction terms, .conjunction others =>
    obtain ⟨clauses, hclauses, rfl⟩ := map_eq_ok_iff.1 hleft
    obtain ⟨_, hothers, hsame⟩ := map_eq_ok_iff.1 hright
    cases hsame
    rw [compileTerms_eq_mapM, mapM_eq_ok_iff] at hclauses hothers
    refine .conjunction (Conjunction.equivalent_of_operands (hclauses.trans hothers.symm) ?_)
    intro term hterm other hother hsame
    obtain ⟨clause, hclause, hok⟩ := exists_mem_eq_ok_of_map_eq hclauses hterm
    have hbare := (Term.compileBare_bare term).trans hok
    have hotherBare := (Term.compileBare_bare other).trans (hsame ▸ hok)
    have hsubset := List.Subset.trans (Conjunction.leaves_subset hterm) hleftLeaves
    have hotherSubset := List.Subset.trans (Conjunction.leaves_subset hother) hrightLeaves
    rw [← Term.leaves_bare] at hsubset hotherSubset
    exact Term.equivalent_of_bare
      (bare_equivalent_of_compileBare hapart clause hbare hotherBare hsubset hotherSubset)
  | .disjunction operands, .disjunction others =>
    obtain ⟨clauses, hclauses, rfl⟩ := map_eq_ok_iff.1 hleft
    obtain ⟨_, hothers, hsame⟩ := map_eq_ok_iff.1 hright
    cases hsame
    rw [compileOperands_eq_mapM, mapM_eq_ok_iff] at hclauses hothers
    refine .disjunction (Disjunction.equivalent_of_operands (hclauses.trans hothers.symm) ?_)
    intro operand hoperand other hother hsame
    obtain ⟨clause, hclause, hok⟩ := exists_mem_eq_ok_of_map_eq hclauses hoperand
    have hbare := (Conjunction.compileBare_bare operand).trans hok
    have hotherBare := (Conjunction.compileBare_bare other).trans (hsame ▸ hok)
    have hsubset := List.Subset.trans (Disjunction.leaves_subset hoperand) hleftLeaves
    have hotherSubset := List.Subset.trans (Disjunction.leaves_subset hother) hrightLeaves
    rw [← Conjunction.leaves_bare] at hsubset hotherSubset
    exact Conjunction.equivalent_of_bare
      (bare_equivalent_of_compileBare hapart clause hbare hotherBare hsubset hotherSubset)
  | .leaf .., .conjunction .. | .leaf .., .disjunction ..
  | .conjunction .., .leaf .. | .conjunction .., .disjunction ..
  | .disjunction .., .leaf .. | .disjunction .., .conjunction .. =>
    obtain ⟨_, _, rfl⟩ := map_eq_ok_iff.1 hleft
    obtain ⟨_, _, hsame⟩ := map_eq_ok_iff.1 hright
    cases hsame

/-- The compiler forgets redundant parentheses and, where the leaves can be told apart by what they
compile to, nothing else. -/
theorem compile_forgets_parentheses (table : KeyTable) (left right : Disjunction) :
    (left.Equivalent right → table.compile left = table.compile right) ∧
      ((∀ leaf ∈ left.leaves ++ right.leaves,
          ∃ filter, table.compileLeaf leaf.1 leaf.2 = .ok filter) →
        table.TellsApart (left.leaves ++ right.leaves) →
          table.compile left = table.compile right → left.Equivalent right) := by
  refine ⟨Disjunction.Equivalent.compile_eq, fun hcompiles hapart hsame => ?_⟩
  obtain ⟨clause, hleft⟩ : ∃ clause, table.compile left = .ok clause := by
    refine exists_compile_iff.2 fun leaf hleaf => exists_compileLeaf_iff.1 ?_
    exact hcompiles leaf (List.mem_append_left _ hleaf)
  have hright := hsame ▸ hleft
  rw [← Disjunction.compileBare_bare] at hleft hright
  refine Disjunction.equivalent_of_bare
    (bare_equivalent_of_compileBare hapart clause hleft hright ?_ ?_)
  · rw [Disjunction.leaves_bare]
    exact List.subset_append_left _ _
  · rw [Disjunction.leaves_bare]
    exact List.subset_append_right _ _

/-- `((since:2021 OR until:2019)) AND (until:2024)` loses the parentheses that are redundant. -/
theorem compile_forgets_parentheses_dates :
    let dates : Disjunction :=
      .or (.one (.leaf "since" "2021")) (.one (.one (.leaf "until" "2019")))
    let left : Disjunction := .one (.and (.group (.one (.one (.group dates))))
      (.one (.group (.one (.one (.leaf "until" "2024"))))))
    let right : Disjunction := .one (.and (.group dates) (.one (.leaf "until" "2024")))
    builtin.TellsApart (left.leaves ++ right.leaves) ∧
      builtin.compile left = builtin.compile right ∧ left.Equivalent right := by
  intro dates left right
  have hleaves : left.leaves ++ right.leaves = [("since", "2021"), ("until", "2019"),
      ("until", "2024"), ("since", "2021"), ("until", "2019"), ("until", "2024")] := rfl
  have hfirst : builtin.compileLeaf "since" "2021" =
      .ok (.range createdAt (some ⟨"2021", true⟩) none) := rfl
  have hsecond : builtin.compileLeaf "until" "2019" =
      .ok (.range createdAt none (some ⟨"2019", true⟩)) := rfl
  have hthird : builtin.compileLeaf "until" "2024" =
      .ok (.range createdAt none (some ⟨"2024", true⟩)) := rfl
  have hcompiles : ∀ leaf ∈ left.leaves ++ right.leaves,
      ∃ filter, builtin.compileLeaf leaf.1 leaf.2 = .ok filter := by
    rw [hleaves]
    simp [hfirst, hsecond, hthird]
  have hapart : builtin.TellsApart (left.leaves ++ right.leaves) := by
    rw [hleaves, TellsApart]
    simp [hfirst, hsecond, hthird]
  have hsame : builtin.compile left = builtin.compile right := rfl
  exact ⟨hapart, hsame, (compile_forgets_parentheses builtin left right).2 hcompiles hapart hsame⟩

end KeyTable

end FilterQuery

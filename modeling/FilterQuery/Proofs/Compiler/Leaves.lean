import FilterQuery.Proofs.Compiler.Steps

/-!
# Compiling leaf by leaf

However the leaves of a tree are joined and grouped, the tree compiles exactly if each of them does.
The compiled query then holds their filters in the order they are written, and every node that joins
clauses joins at least two. Otherwise the first leaf without a filter decides the fault.
-/

namespace FilterQuery

/-- The texts a filter compares its field with. -/
def Filter.values : Filter → List String
  | .range _ lower upper => (lower.toList ++ upper.toList).map (·.value)
  | .term _ value => [value]

/-- Nodes that join clauses join at least two, and those that do not ask for all ask for one. -/
inductive Clause.Collapsed : Clause → Prop
  | filter (predicate : Filter) : Clause.Collapsed (.filter predicate)
  | all {clauses : List Clause} (hseveral : 2 ≤ clauses.length)
      (hclauses : ∀ clause ∈ clauses, clause.Collapsed) : Clause.Collapsed (.all clauses)
  | any {clauses : List Clause} (hseveral : 2 ≤ clauses.length)
      (hclauses : ∀ clause ∈ clauses, clause.Collapsed) : Clause.Collapsed (.any 1 clauses)

namespace KeyTable

variable {table : KeyTable} {key value : String} {filter : Filter} {fault : Fault}

/-- There is a rule for the key of the leaf, and the rule takes the value. -/
def Accepts (table : KeyTable) (leaf : String × String) : Prop :=
  ∃ rule, table.rule? leaf.1 = some rule ∧ rule.format.refusal? leaf.2 = none

/-- The table has no rule for the key of a leaf, or the rule refuses the value. -/
inductive Refuses (table : KeyTable) : String × String → Fault → Prop
  | unknownKey {key value : String} {known : List String} (habsent : table.rule? key = none)
      (hascending : known.Pairwise (· < ·))
      (hknown : ∀ name, name ∈ known ↔ ∃ rule, table.rule? name = some rule) :
      Refuses table (key, value) (.unknownKey key known)
  | invalidValue {key value reason : String} {rule : Rule} (hrule : table.rule? key = some rule)
      (hreason : rule.format.refusal? value = some reason) :
      Refuses table (key, value) (.invalidValue key value reason)

/-- The filter a leaf stands for, whether or not its value is accepted. -/
def filter? (table : KeyTable) (leaf : String × String) : Option Filter :=
  (table.rule? leaf.1).map (·.filter leaf.2)

theorem exists_compileLeaf_iff {leaf : String × String} :
    (∃ filter, table.compileLeaf leaf.1 leaf.2 = .ok filter) ↔ table.Accepts leaf := by
  simp only [compileLeaf_eq_ok_iff, Accepts]
  constructor
  · rintro ⟨_, rule, hrule, haccepts, _⟩
    exact ⟨rule, hrule, haccepts⟩
  · rintro ⟨rule, hrule, haccepts⟩
    exact ⟨_, rule, hrule, haccepts, rfl⟩

theorem filter?_of_compileLeaf {leaf : String × String}
    (hcompile : table.compileLeaf leaf.1 leaf.2 = .ok filter) :
    table.filter? leaf = some filter := by
  obtain ⟨rule, hrule, _, rfl⟩ := compileLeaf_eq_ok_iff.1 hcompile
  rw [filter?, hrule]
  rfl

theorem mem_names_iff_rule? {name : String} :
    name ∈ table.names ↔ ∃ rule, table.rule? name = some rule := by
  rw [NameMap.mem_names_iff, NameMap.contains, rule?]
  cases table.get? name <;> simp

theorem refuses_of_compileLeaf (hcompile : table.compileLeaf key value = .error fault) :
    table.Refuses (key, value) fault := by
  rw [compileLeaf] at hcompile
  cases hrule : table.rule? key with
  | none =>
    rw [hrule] at hcompile
    cases hcompile
    exact .unknownKey hrule table.ascending_names fun _ => mem_names_iff_rule?
  | some rule =>
    simp only [hrule, Rule.compile] at hcompile
    cases hreason : rule.format.refusal? value with
    | none => simp [hreason] at hcompile
    | some reason =>
      simp only [hreason] at hcompile
      cases hcompile
      exact .invalidValue hrule hreason

end KeyTable

theorem Rule.values_filter (rule : Rule) (value : String) :
    (rule.filter value).values = [value] := by
  cases rule with
  | range field side inclusive format => cases side <;> rfl
  | term field format => rfl

namespace Clause

variable {clauses : List Clause}

@[simp]
theorem joinAll_singleton (clause : Clause) : joinAll [clause] = clause :=
  rfl

@[simp]
theorem joinAny_singleton (clause : Clause) : joinAny [clause] = clause :=
  rfl

theorem filters_joinAll (clauses : List Clause) :
    (joinAll clauses).filters = filtersOf clauses := by
  match clauses with
  | [] => rfl
  | [clause] => simp [filtersOf]
  | _ :: _ :: _ => rfl

theorem filters_joinAny (clauses : List Clause) :
    (joinAny clauses).filters = filtersOf clauses := by
  match clauses with
  | [] => rfl
  | [clause] => simp [filtersOf]
  | _ :: _ :: _ => rfl

theorem collapsed_joinAll (hnonempty : clauses ≠ [])
    (hclauses : ∀ clause ∈ clauses, clause.Collapsed) : (joinAll clauses).Collapsed := by
  match clauses with
  | [] => exact absurd rfl hnonempty
  | [clause] => exact hclauses clause List.mem_cons_self
  | _ :: _ :: _ => exact .all (by simp) hclauses

theorem collapsed_joinAny (hnonempty : clauses ≠ [])
    (hclauses : ∀ clause ∈ clauses, clause.Collapsed) : (joinAny clauses).Collapsed := by
  match clauses with
  | [] => exact absurd rfl hnonempty
  | [clause] => exact hclauses clause List.mem_cons_self
  | _ :: _ :: _ => exact .any (by simp) hclauses

end Clause

variable (table : KeyTable)

/-! ## Filters and faults are those of the leaves -/

mutual

/-- The filters of a compiled term, or its fault, are what its leaves compile to one by one. -/
theorem Term.filters_compileTerm (term : Term) :
    Clause.filters <$> table.compileTerm term =
      term.leaves.mapM fun leaf => table.compileLeaf leaf.1 leaf.2 := by
  match term with
  | .leaf key value => simp [KeyTable.compileTerm, Term.leaves, Clause.filters]
  | .group inner =>
    rw [Term.leaves, ← Disjunction.filters_compileOperands inner]
    simp [KeyTable.compileTerm, Clause.filters_joinAny]

theorem Conjunction.filters_compileTerms (conjunction : Conjunction) :
    Clause.filtersOf <$> table.compileTerms conjunction =
      conjunction.leaves.mapM fun leaf => table.compileLeaf leaf.1 leaf.2 := by
  match conjunction with
  | .one term =>
    rw [Conjunction.leaves, ← Term.filters_compileTerm term]
    simp [KeyTable.compileTerms, Clause.filtersOf]
  | .and term rest =>
    rw [Conjunction.leaves, List.mapM_append, ← Term.filters_compileTerm term,
      ← Conjunction.filters_compileTerms rest]
    simp [KeyTable.compileTerms, Clause.filtersOf]

theorem Disjunction.filters_compileOperands (tree : Disjunction) :
    Clause.filtersOf <$> table.compileOperands tree =
      tree.leaves.mapM fun leaf => table.compileLeaf leaf.1 leaf.2 := by
  match tree with
  | .one operand =>
    rw [Disjunction.leaves, ← Conjunction.filters_compileTerms operand]
    simp [KeyTable.compileOperands, Clause.filtersOf, Clause.filters_joinAll]
  | .or operand rest =>
    rw [Disjunction.leaves, List.mapM_append, ← Conjunction.filters_compileTerms operand,
      ← Disjunction.filters_compileOperands rest]
    simp [KeyTable.compileOperands, Clause.filtersOf, Clause.filters_joinAll]

end

theorem Disjunction.filters_compile (tree : Disjunction) :
    Clause.filters <$> table.compile tree =
      tree.leaves.mapM fun leaf => table.compileLeaf leaf.1 leaf.2 := by
  rw [← Disjunction.filters_compileOperands]
  simp [KeyTable.compile, Clause.filters_joinAny]

/-! ## Single operands leave no node -/

variable {table}

mutual

theorem Term.collapsed_compileTerm {term : Term} {clause : Clause}
    (hcompile : table.compileTerm term = .ok clause) : clause.Collapsed := by
  match term with
  | .leaf key value =>
    obtain ⟨filter, _, rfl⟩ := KeyTable.compileTerm_leaf_eq_ok_iff.1 hcompile
    exact .filter filter
  | .group inner =>
    obtain ⟨clauses, hclauses, rfl⟩ := KeyTable.compileTerm_group_eq_ok_iff.1 hcompile
    obtain ⟨hnonempty, hcollapsed⟩ := Disjunction.collapsed_compileOperands hclauses
    exact Clause.collapsed_joinAny hnonempty hcollapsed

theorem Conjunction.collapsed_compileTerms {conjunction : Conjunction} {clauses : List Clause}
    (hcompile : table.compileTerms conjunction = .ok clauses) :
    clauses ≠ [] ∧ ∀ clause ∈ clauses, clause.Collapsed := by
  match conjunction with
  | .one term =>
    obtain ⟨clause, hclause, rfl⟩ := KeyTable.compileTerms_one_eq_ok_iff.1 hcompile
    simpa using Term.collapsed_compileTerm hclause
  | .and term rest =>
    obtain ⟨clause, others, hclause, hothers, rfl⟩ :=
      KeyTable.compileTerms_and_eq_ok_iff.1 hcompile
    exact ⟨List.cons_ne_nil _ _, List.forall_mem_cons.2
      ⟨Term.collapsed_compileTerm hclause, (Conjunction.collapsed_compileTerms hothers).2⟩⟩

theorem Disjunction.collapsed_compileOperands {tree : Disjunction} {clauses : List Clause}
    (hcompile : table.compileOperands tree = .ok clauses) :
    clauses ≠ [] ∧ ∀ clause ∈ clauses, clause.Collapsed := by
  match tree with
  | .one operand =>
    obtain ⟨terms, hterms, rfl⟩ := KeyTable.compileOperands_one_eq_ok_iff.1 hcompile
    obtain ⟨hnonempty, hcollapsed⟩ := Conjunction.collapsed_compileTerms hterms
    simpa using Clause.collapsed_joinAll hnonempty hcollapsed
  | .or operand rest =>
    obtain ⟨terms, others, hterms, hothers, rfl⟩ :=
      KeyTable.compileOperands_or_eq_ok_iff.1 hcompile
    obtain ⟨hnonempty, hcollapsed⟩ := Conjunction.collapsed_compileTerms hterms
    exact ⟨List.cons_ne_nil _ _, List.forall_mem_cons.2
      ⟨Clause.collapsed_joinAll hnonempty hcollapsed,
        (Disjunction.collapsed_compileOperands hothers).2⟩⟩

end

theorem Disjunction.collapsed_compile {tree : Disjunction} {clause : Clause}
    (hcompile : table.compile tree = .ok clause) : clause.Collapsed := by
  obtain ⟨clauses, hclauses, rfl⟩ := KeyTable.compile_eq_ok_iff.1 hcompile
  obtain ⟨hnonempty, hcollapsed⟩ := Disjunction.collapsed_compileOperands hclauses
  exact Clause.collapsed_joinAny hnonempty hcollapsed

/-! ## Whole trees -/

namespace KeyTable

variable {tree : Disjunction} {clause : Clause} {fault : Fault}

theorem map_compileLeaf_of_compile (hcompile : table.compile tree = .ok clause) :
    (tree.leaves.map fun leaf => table.compileLeaf leaf.1 leaf.2) = clause.filters.map .ok := by
  rw [← mapM_eq_ok_iff, ← Disjunction.filters_compile, hcompile]
  rfl

theorem first_refused_of_compile (hcompile : table.compile tree = .error fault) :
    ∃ before leaf after, tree.leaves = before ++ leaf :: after ∧
      (∀ earlier ∈ before, table.Accepts earlier) ∧
        table.compileLeaf leaf.1 leaf.2 = .error fault := by
  have hleaves : Clause.filters <$> table.compile tree = .error fault :=
    map_eq_error_iff.2 hcompile
  rw [Disjunction.filters_compile, mapM_eq_error_iff] at hleaves
  simpa only [exists_compileLeaf_iff] using hleaves

theorem exists_compile_iff :
    (∃ clause, table.compile tree = .ok clause) ↔ ∀ leaf ∈ tree.leaves, table.Accepts leaf := by
  constructor
  · rintro ⟨clause, hcompile⟩ leaf hleaf
    obtain ⟨filter, _, hfilter⟩ :=
      exists_mem_eq_ok_of_map_eq (map_compileLeaf_of_compile hcompile) hleaf
    exact exists_compileLeaf_iff.1 ⟨filter, hfilter⟩
  · intro haccepts
    cases hcompile : table.compile tree with
    | ok clause => exact ⟨clause, rfl⟩
    | error fault =>
      obtain ⟨before, leaf, after, hleaves, _, hfault⟩ := first_refused_of_compile hcompile
      have hleaf := haccepts leaf (by simp [hleaves])
      obtain ⟨filter, hfilter⟩ := exists_compileLeaf_iff.2 hleaf
      rw [hfault] at hfilter
      cases hfilter

theorem map_filter?_of_compile (hcompile : table.compile tree = .ok clause) :
    tree.leaves.map table.filter? = clause.filters.map some := by
  have haccepts := exists_compile_iff.1 ⟨clause, hcompile⟩
  calc
    tree.leaves.map table.filter? =
        tree.leaves.map (fun leaf => (table.compileLeaf leaf.1 leaf.2).toOption) := by
      refine List.map_congr_left fun leaf hleaf => ?_
      obtain ⟨filter, hfilter⟩ := exists_compileLeaf_iff.2 (haccepts leaf hleaf)
      rw [filter?_of_compileLeaf hfilter, hfilter]
      rfl
    _ = (clause.filters.map .ok).map Except.toOption := by
      rw [← map_compileLeaf_of_compile hcompile, List.map_map]
      rfl
    _ = clause.filters.map some := by
      rw [List.map_map]
      rfl

theorem map_values_of_compile (hcompile : table.compile tree = .ok clause) :
    tree.leaves.map (fun leaf => [leaf.2]) = clause.filters.map Filter.values := by
  have haccepts := exists_compile_iff.1 ⟨clause, hcompile⟩
  refine (List.map_inj_right fun _ _ => Option.some.inj).1 ?_
  calc
    (tree.leaves.map fun leaf => [leaf.2]).map some =
        (tree.leaves.map table.filter?).map (Option.map Filter.values) := by
      rw [List.map_map, List.map_map]
      refine List.map_congr_left fun leaf hleaf => ?_
      obtain ⟨rule, hrule, _⟩ := haccepts leaf hleaf
      simp [filter?, hrule, Rule.values_filter]
    _ = (clause.filters.map Filter.values).map some := by
      rw [map_filter?_of_compile hcompile, List.map_map, List.map_map]
      rfl

/-- A tree compiles exactly if the table accepts each of its leaves. Its filters are then those of
the leaves, in their order and with their values, and no node of the compiled query joins less than
two clauses. Otherwise the first leaf that is not accepted decides the fault. -/
theorem compile_leaves (table : KeyTable) (tree : Disjunction) :
    ((∃ clause, table.compile tree = .ok clause) ↔ ∀ leaf ∈ tree.leaves, table.Accepts leaf) ∧
      (∀ clause, table.compile tree = .ok clause →
        tree.leaves.map table.filter? = clause.filters.map some ∧
          tree.leaves.map (fun leaf => [leaf.2]) = clause.filters.map Filter.values ∧
            clause.filterCount = tree.leaves.length ∧ clause.Collapsed) ∧
      ∀ fault, table.compile tree = .error fault →
        ∃ before leaf after, tree.leaves = before ++ leaf :: after ∧
          (∀ earlier ∈ before, table.Accepts earlier) ∧ table.Refuses leaf fault := by
  refine ⟨exists_compile_iff, fun clause hcompile => ?_, fun fault hcompile => ?_⟩
  · have hfilters := map_filter?_of_compile hcompile
    have hcount : clause.filterCount = tree.leaves.length := by
      simpa [Clause.filterCount_eq_length] using (congrArg List.length hfilters).symm
    exact ⟨hfilters, map_values_of_compile hcompile, hcount, Disjunction.collapsed_compile hcompile⟩
  · obtain ⟨before, leaf, after, hleaves, hbefore, hfault⟩ := first_refused_of_compile hcompile
    exact ⟨before, leaf, after, hleaves, hbefore, refuses_of_compileLeaf hfault⟩

end KeyTable

end FilterQuery

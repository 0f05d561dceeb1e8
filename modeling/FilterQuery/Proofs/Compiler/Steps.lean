import FilterQuery.Compiler
import FilterQuery.Proofs.Outcome

/-!
# Steps of the compiler

What each kind of node compiles to, given what the nodes below it compile to.
-/

namespace FilterQuery.KeyTable

variable {table : KeyTable} {key value : String} {filter : Filter} {term : Term}
  {conjunction : Conjunction} {tree : Disjunction} {clause : Clause} {clauses : List Clause}

theorem compileLeaf_eq_ok_iff :
    table.compileLeaf key value = .ok filter ↔
      ∃ rule, table.rule? key = some rule ∧ rule.format.refusal? value = none ∧
        rule.filter value = filter := by
  rw [compileLeaf]
  cases table.rule? key with
  | none => simp
  | some rule =>
    cases hrefusal : rule.format.refusal? value <;> simp [Rule.compile, hrefusal]

theorem compileTerm_leaf_eq_ok_iff :
    table.compileTerm (.leaf key value) = .ok clause ↔
      ∃ filter, table.compileLeaf key value = .ok filter ∧ .filter filter = clause := by
  rw [compileTerm, bind_pure_comp, map_eq_ok_iff]

theorem compileTerm_group_eq_ok_iff :
    table.compileTerm (.group tree) = .ok clause ↔
      ∃ clauses, table.compileOperands tree = .ok clauses ∧ .joinAny clauses = clause := by
  rw [compileTerm, bind_pure_comp, map_eq_ok_iff]

theorem compileTerms_one_eq_ok_iff :
    table.compileTerms (.one term) = .ok clauses ↔
      ∃ clause, table.compileTerm term = .ok clause ∧ [clause] = clauses := by
  rw [compileTerms, bind_pure_comp, map_eq_ok_iff]

theorem compileTerms_and_eq_ok_iff :
    table.compileTerms (.and term conjunction) = .ok clauses ↔
      ∃ clause others, table.compileTerm term = .ok clause ∧
        table.compileTerms conjunction = .ok others ∧ clause :: others = clauses := by
  simp only [compileTerms, bind_pure_comp, bind_eq_ok_iff, map_eq_ok_iff, exists_and_left]

theorem compileOperands_one_eq_ok_iff :
    table.compileOperands (.one conjunction) = .ok clauses ↔
      ∃ terms, table.compileTerms conjunction = .ok terms ∧ [.joinAll terms] = clauses := by
  rw [compileOperands, bind_pure_comp, map_eq_ok_iff]

theorem compileOperands_or_eq_ok_iff :
    table.compileOperands (.or conjunction tree) = .ok clauses ↔
      ∃ terms others, table.compileTerms conjunction = .ok terms ∧
        table.compileOperands tree = .ok others ∧ .joinAll terms :: others = clauses := by
  simp only [compileOperands, bind_pure_comp, bind_eq_ok_iff, map_eq_ok_iff, exists_and_left]

theorem compile_eq_ok_iff :
    table.compile tree = .ok clause ↔
      ∃ clauses, table.compileOperands tree = .ok clauses ∧ .joinAny clauses = clause := by
  rw [compile, bind_pure_comp, map_eq_ok_iff]

end FilterQuery.KeyTable

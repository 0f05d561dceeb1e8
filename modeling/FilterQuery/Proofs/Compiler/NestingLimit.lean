import FilterQuery.Proofs.Compiler.Leaves
import FilterQuery.Proofs.Query.Layout
import FilterQuery.Proofs.Query.NestingLimit

/-!
# Compiling under different nesting limits

A smaller limit can only stop a query earlier: at a group that it forbids, with a fault that names
it. Otherwise a query compiles to the same clause, or has the same fault, as under any larger limit.
-/

namespace FilterQuery

namespace Reading

variable {limit other : Nat} {reading next : Reading} {token : Token} {tokens : List Token}
  {fault : Fault}

theorem offset?_of_step (hstep : reading.step limit token = .error fault) :
    fault.offset? = some token.offset := by
  rcases step_eq_error hstep with ⟨rfl, _⟩ | ⟨rfl, _⟩ <;> rfl

theorem exists_offset?_of_run (hrun : reading.run limit tokens = .error fault) :
    ∃ token ∈ tokens, fault.offset? = some token.offset := by
  obtain ⟨before, token, after, middle, rfl, _, hstep⟩ := run_eq_error_iff.1 hrun
  exact ⟨token, by simp, offset?_of_step hstep⟩

/-- A run under a smaller limit goes like one under a larger limit, unless it stops at a token that
opens a group too many. -/
theorem run_eq_or_tooDeep (hle : limit ≤ other) (reading : Reading) (tokens : List Token) :
    reading.run limit tokens = reading.run other tokens ∨
      ∃ before token after middle, tokens = before ++ token :: after ∧
        reading.run limit before = .ok middle ∧
          middle.step limit token = .error (.tooDeep token.offset limit) := by
  cases hrun : reading.run limit tokens with
  | ok next => exact .inl (run_mono hle hrun).symm
  | error fault =>
    obtain ⟨before, token, after, middle, rfl, hbefore, hstep⟩ := run_eq_error_iff.1 hrun
    rcases step_eq_error hstep with ⟨rfl, _⟩ | ⟨_, hrefused, _⟩
    · exact .inr ⟨before, token, after, middle, rfl, hbefore, hstep⟩
    · -- What is refused is refused under every limit, and what comes before it is no different.
      have hsame := run_eq_error_iff.2
        ⟨before, token, after, middle, rfl, run_mono hle hbefore, hrefused other⟩
      exact .inl hsame.symm

end Reading

namespace Disjunction

variable {lower upper stop : Nat} {tokens before after : List Token} {token : Token}
  {reading : Reading} {fault : Fault} {query : String}

/-- If tokens can be read up to one of them, they have no fault before it. -/
theorem exists_offset?_of_ofTokens
    (hread : Reading.run (nestingLimit upper) {} before = .ok reading)
    (hfault : ofTokensEndingAt upper stop (before ++ token :: after) = .error fault)
    (hascending : ∀ later ∈ after, token.offset ≤ later.offset) (hstop : token.offset ≤ stop) :
    ∃ offset, fault.offset? = some offset ∧ token.offset ≤ offset := by
  rw [ofTokensEndingAt, Reading.run_append_of_ok hread, bind_eq_error_iff] at hfault
  rcases hfault with hrun | ⟨final, _, hfinish⟩
  · obtain ⟨faulty, hfaulty, hoffset⟩ := Reading.exists_offset?_of_run hrun
    rcases List.mem_cons.1 hfaulty with rfl | hlater
    · exact ⟨faulty.offset, hoffset, Nat.le_refl _⟩
    · exact ⟨faulty.offset, hoffset, hascending faulty hlater⟩
  · rw [Reading.finish_eq_error hfinish]
    exact ⟨stop, rfl, hstop⟩

/-- A query is read the same under a larger limit, unless it nests too deep for the smaller one.
Then it has no fault under the larger limit before the group that the smaller one forbids. -/
theorem ofQuery_eq_or_tooDeep (hle : lower ≤ upper) (query : String) :
    ofQuery lower query = ofQuery upper query ∨
      ∃ offset, ofQuery lower query = .error (.tooDeep offset (nestingLimit lower)) ∧
        ∀ fault, ofQuery upper query = .error fault →
          ∃ position, fault.offset? = some position ∧ offset ≤ position := by
  have hlimits : nestingLimit lower ≤ nestingLimit upper := by
    simp only [nestingLimit]
    omega
  cases hscan : Token.scan query with
  | error fault =>
    left
    rw [ofQuery, ofQuery, hscan]
    rfl
  | ok tokens =>
    simp only [ofQuery_of_scan hscan]
    rcases Reading.run_eq_or_tooDeep hlimits {} tokens with
      hsame | ⟨before, token, after, middle, rfl, hbefore, hstep⟩
    · left
      rw [ofTokensEndingAt, ofTokensEndingAt, hsame]
    · right
      have hrun := Reading.run_eq_error_iff.2 ⟨before, token, after, middle, rfl, hbefore, hstep⟩
      refine ⟨token.offset, ofTokensEndingAt_of_fault hrun _, fun fault hfault => ?_⟩
      have hread := Reading.run_mono hlimits hbefore
      have hascending := Token.ascending_of_scan hscan
      obtain ⟨_, hfurther, _⟩ := List.pairwise_append.1 hascending
      have hlater := (List.pairwise_cons.1 hfurther).1
      have hmem : token ∈ before ++ token :: after := by simp
      have hstop := Token.stop_le_of_scan hscan hmem
      have hstarts : token.offset ≤ token.stop := Nat.le_add_right _ _
      apply exists_offset?_of_ofTokens hread hfault
      · exact fun later hmem => Nat.le_trans hstarts (hlater later hmem)
      · exact Nat.le_trans hstarts hstop

end Disjunction

/-- What is wrong with a key or a value has no place. -/
theorem KeyTable.offset?_of_compile {table : KeyTable} {tree : Disjunction} {fault : Fault}
    (hcompile : table.compile tree = .error fault) : fault.offset? = none := by
  obtain ⟨before, leaf, after, _, _, hleaf⟩ := first_refused_of_compile hcompile
  cases refuses_of_compileLeaf hleaf <;> rfl

namespace Compiler

variable {keys : KeyTable} {lower upper : Nat} {query : String}

theorem compileQuery_of_ofQuery_error {compiler : Compiler} {fault : Fault}
    (hread : Disjunction.ofQuery compiler.maxDepth query = .error fault) :
    compiler.compileQuery query = .error fault := by
  rw [compileQuery, hread]
  rfl

/-- All limits from the ceiling on are the ceiling. -/
theorem compileQuery_of_ceiling_le {first second : Nat} (hfirst : 128 ≤ first)
    (hsecond : 128 ≤ second) :
    (⟨keys, first⟩ : Compiler).compileQuery query =
      (⟨keys, second⟩ : Compiler).compileQuery query := by
  have hlimit {limit : Nat} (hlimit : 128 ≤ limit) : nestingLimit limit = 128 :=
    Nat.min_eq_right hlimit
  simp only [compileQuery, Disjunction.ofQuery, Disjunction.ofTokensEndingAt, hlimit hfirst,
    hlimit hsecond]

/-- A smaller limit either forbids a group of the query, and then says so, or changes nothing. What
it forbids stands no later than any fault under a larger limit. Limits that are at least the ceiling
do not differ. -/
theorem compileQuery_under_limits (keys : KeyTable) (query : String) (hle : lower ≤ upper) :
    ((∃ offset, (⟨keys, lower⟩ : Compiler).compileQuery query =
          .error (.tooDeep offset (min lower 128))) ∨
        (⟨keys, lower⟩ : Compiler).compileQuery query =
          (⟨keys, upper⟩ : Compiler).compileQuery query) ∧
      (∀ fault other offset position,
        (⟨keys, lower⟩ : Compiler).compileQuery query = .error fault →
        (⟨keys, upper⟩ : Compiler).compileQuery query = .error other →
        fault.offset? = some offset → other.offset? = some position → offset ≤ position) ∧
      ∀ first second : Nat, 128 ≤ first → 128 ≤ second →
        (⟨keys, first⟩ : Compiler).compileQuery query =
          (⟨keys, second⟩ : Compiler).compileQuery query := by
  rcases Disjunction.ofQuery_eq_or_tooDeep hle query with hsame | ⟨deepest, hdeep, hlater⟩
  · have heq : (⟨keys, lower⟩ : Compiler).compileQuery query =
        (⟨keys, upper⟩ : Compiler).compileQuery query := by
      simp only [compileQuery, hsame]
    refine ⟨.inr heq, ?_, fun first second => compileQuery_of_ceiling_le⟩
    intro fault other offset position hfault hother hoffset hposition
    rw [heq, hother] at hfault
    cases hfault
    rw [hoffset] at hposition
    exact Nat.le_of_eq (Option.some.inj hposition)
  · have hlower : (⟨keys, lower⟩ : Compiler).compileQuery query =
        .error (.tooDeep deepest (nestingLimit lower)) := compileQuery_of_ofQuery_error hdeep
    refine ⟨.inl ⟨deepest, hlower⟩, ?_, fun first second => compileQuery_of_ceiling_le⟩
    intro fault other offset position hfault hother hoffset hposition
    rw [hlower] at hfault
    cases hfault
    cases hoffset
    rcases bind_eq_error_iff.1 hother with hread | ⟨tree, _, hcompile⟩
    · obtain ⟨found, hfound, hle⟩ := hlater other hread
      rw [hfound] at hposition
      exact Option.some.inj hposition ▸ hle
    · rw [KeyTable.offset?_of_compile hcompile] at hposition
      cases hposition

/-- Under a limit of one the second group is too deep, under a larger limit it lacks its end. -/
theorem compileQuery_under_limits_unclosed :
    let query := "(since:2021 OR ( until:2023"
    let compiler (limit : Nat) : Compiler := ⟨.builtin, limit⟩
    (1 ≤ 2 ∧ (compiler 1).compileQuery query = .error (.tooDeep 15 1) ∧
        (compiler 2).compileQuery query = .error (.unexpectedToken 27
          "`AND`, `OR` or `)` closing the group at offset 15" "end of input")) ∧
      ((∃ offset, (compiler 1).compileQuery query = .error (.tooDeep offset (min 1 128))) ∨
          (compiler 1).compileQuery query = (compiler 2).compileQuery query) ∧
        (∀ fault other offset position,
          (compiler 1).compileQuery query = .error fault →
          (compiler 2).compileQuery query = .error other →
          fault.offset? = some offset → other.offset? = some position → offset ≤ position) ∧
        ∀ first second : Nat, 128 ≤ first → 128 ≤ second →
          (compiler first).compileQuery query = (compiler second).compileQuery query := by
  intro query compiler
  have hone : (compiler 1).compileQuery query = .error (.tooDeep 15 1) :=
    compileQuery_of_ofQuery_error (by decide +kernel)
  have htwo : (compiler 2).compileQuery query = .error (.unexpectedToken 27
      "`AND`, `OR` or `)` closing the group at offset 15" "end of input") :=
    compileQuery_of_ofQuery_error (by decide +kernel)
  exact ⟨⟨by decide, hone, htwo⟩, compileQuery_under_limits .builtin query (by decide)⟩

end Compiler

end FilterQuery

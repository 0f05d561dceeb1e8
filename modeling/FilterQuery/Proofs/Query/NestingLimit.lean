import FilterQuery.Proofs.Query.StrayCharacter
import FilterQuery.Proofs.Query.ViablePrefix

/-!
# What the nesting limit forbids

If only the nesting of its groups keeps a query from being read, the fault says so and names the
limit in force. No other limit is ever named.
-/

namespace FilterQuery

variable {maxDepth stop limit offset : Nat} {tokens : List Token} {tree : Disjunction}
  {query : String} {fault : Fault}

namespace Disjunction

theorem limit_of_ofQuery (hread : ofQuery maxDepth query = .error (.tooDeep offset limit)) :
    limit = nestingLimit maxDepth := by
  rcases ofQuery_error_cases hread with
    hscan | ⟨before, token, after, reading, _, _, hstep⟩ | ⟨tokens, reading, _, _, hfinish⟩
  · obtain ⟨before, c, _, hfault⟩ := Token.scan_eq_error_iff.1 hscan
    cases hfault
  · rcases Reading.step_eq_error hstep with ⟨hdeep, _⟩ | ⟨hrefused, _⟩
    · cases hdeep
      rfl
    · cases hrefused
  · have hfault := Reading.finish_eq_error hfinish
    cases hfault

/-- Tokens whose tree nests too deep fail at the token that exceeds the limit. -/
theorem exists_tooDeep_of_derivedFrom (hderived : tree.DerivedFrom tokens)
    (hdeep : nestingLimit maxDepth < tree.depth) (stop : Nat) :
    ∃ offset, ofTokensEndingAt maxDepth stop tokens =
      .error (.tooDeep offset (nestingLimit maxDepth)) := by
  cases hrun : Reading.run (nestingLimit maxDepth) {} tokens with
  | ok reading =>
    -- Under a limit that allows the tree, the same run ends with it.
    have hlarger := Reading.run_mono (Nat.le_of_lt hdeep) hrun
    obtain ⟨final, hfinal, hfinish⟩ :=
      (Reading.run_finish_eq_ok_iff stop).2 ⟨hderived, Nat.le_refl tree.depth⟩
    rw [hlarger] at hfinal
    cases hfinal
    have hwithin := (Reading.run_finish_eq_ok_iff stop).1 ⟨reading, hrun, hfinish⟩
    exact absurd hwithin.2 (Nat.not_le_of_lt hdeep)
  | error fault =>
    obtain ⟨before, token, after, reading, rfl, hbefore, hstep⟩ :=
      Reading.run_eq_error_iff.1 hrun
    rcases Reading.step_eq_error hstep with ⟨rfl, _⟩ | ⟨_, _, hnone⟩
    · exact ⟨token.offset, ofTokensEndingAt_of_fault hrun stop⟩
    · have hbegins : BeginsDerived (before ++ [token]) := ⟨after, tree, by simpa using hderived⟩
      exact absurd hbegins (not_beginsDerived_of_refused hbefore hnone)

end Disjunction

end FilterQuery

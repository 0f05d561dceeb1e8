import FilterQuery.Proofs.Query.Layout
import FilterQuery.Proofs.Query.StrayCharacter
import FilterQuery.Proofs.Query.ViablePrefix

/-!
# Where the faults of a query point

A fault cuts the query in two: what stands in front of the place it points at, and what starts
there. Behind the cut stands the character that starts no token, or the first token with which no
query goes on, or nothing if the query stops too early.
-/

namespace FilterQuery

/-- The first token with which no accepted query goes on starts between the two halves. -/
structure Offends (maxDepth : Nat) (before after : String) (token : Token) : Prop where
  offset_eq : token.offset = before.utf8ByteSize
  begins : ∃ rest, token.text ≠ "" ∧ after = token.text ++ rest
  first : ∃ earlier later, Token.scan (before ++ after) = .ok (earlier ++ token :: later) ∧
    BeginsAccepted maxDepth earlier ∧ ¬ BeginsAccepted maxDepth (earlier ++ [token])

/-- What a fault of the query `before ++ after` points at, if it points between the two halves. -/
inductive PointsAt (maxDepth : Nat) (before after : String) : Fault → Prop
  | stray {c : Char} (hfirst : Token.FirstStray (before ++ after) before c) :
      PointsAt maxDepth before after (.unexpectedChar before.utf8ByteSize c)
  | token {token : Token} {expected : String} (hoffends : Offends maxDepth before after token) :
      PointsAt maxDepth before after
        (.unexpectedToken before.utf8ByteSize expected token.describe)
  | group {token : Token} (hoffends : Offends maxDepth before after token)
      (hkind : token.kind = .punctuation .openParen) :
      PointsAt maxDepth before after (.tooDeep before.utf8ByteSize (min maxDepth 128))
  /-- The tokens of the whole query begin an accepted one and are none themselves. -/
  | ending {tokens : List Token} {expected : String} (hafter : after = "")
      (hscan : Token.scan before = .ok tokens) (hbegins : BeginsAccepted maxDepth tokens)
      (hrejected : ∀ tree, Disjunction.ofTokens maxDepth tokens ≠ .ok tree) :
      PointsAt maxDepth before after
        (.unexpectedToken before.utf8ByteSize expected "end of input")

variable {maxDepth : Nat} {query before after : String} {tokens : List Token} {token : Token}
  {fault : Fault}

theorem PointsAt.offset?_eq (hpoints : PointsAt maxDepth before after fault) :
    fault.offset? = some before.utf8ByteSize := by
  cases hpoints <;> rfl

namespace Token

/-- The description of a token ends in a quote. -/
theorem describe_ne_end (token : Token) : token.describe ≠ "end of input" := by
  intro hdescribe
  have hlast := congrArg (fun text => text.toList.reverse.head?) hdescribe
  obtain ⟨kind, text, offset⟩ := token
  cases kind <;> simp [describe] at hlast

end Token

theorem not_beginsAccepted_concat {reading : Reading}
    (hrun : Reading.run (nestingLimit maxDepth) {} tokens = .ok reading)
    (hstep : reading.step (nestingLimit maxDepth) token = .error fault) :
    ¬ BeginsAccepted maxDepth (tokens ++ [token]) := by
  rw [beginsAccepted_iff_run, Reading.run_append_of_ok hrun, Reading.run_cons, hstep]
  rintro ⟨next, hnext⟩
  cases hnext

/-- A token at which the reading of a query fails starts at a cut of the query. -/
theorem exists_offends {earlier later : List Token} {reading : Reading}
    (hscan : Token.scan query = .ok (earlier ++ token :: later))
    (hrun : Reading.run (nestingLimit maxDepth) {} earlier = .ok reading)
    (hstep : reading.step (nestingLimit maxDepth) token = .error fault) :
    ∃ before after, query = before ++ after ∧ Offends maxDepth before after token := by
  obtain ⟨before, rest, rfl, hoffset, hspelled, _⟩ := Token.exists_split_of_scan hscan
  have hfirst : BeginsAccepted maxDepth earlier := beginsAccepted_iff_run.2 ⟨reading, hrun⟩
  exact ⟨before, token.text ++ rest, rfl, hoffset, ⟨rest, hspelled.text_ne_empty, rfl⟩,
    earlier, later, hscan, hfirst, not_beginsAccepted_concat hrun hstep⟩

theorem exists_pointsAt_of_step {earlier later : List Token} {reading : Reading}
    (hscan : Token.scan query = .ok (earlier ++ token :: later))
    (hrun : Reading.run (nestingLimit maxDepth) {} earlier = .ok reading)
    (hstep : reading.step (nestingLimit maxDepth) token = .error fault) :
    ∃ before after, query = before ++ after ∧ PointsAt maxDepth before after fault := by
  obtain ⟨before, after, rfl, hoffends⟩ := exists_offends hscan hrun hstep
  refine ⟨before, after, rfl, ?_⟩
  rcases Reading.step_eq_error hstep with ⟨rfl, hkind, _⟩ | ⟨rfl, _⟩
  · rw [hoffends.offset_eq]
    exact .group hoffends hkind
  · rw [hoffends.offset_eq]
    exact .token hoffends

theorem pointsAt_of_finish {reading : Reading} (hscan : Token.scan query = .ok tokens)
    (hrun : Reading.run (nestingLimit maxDepth) {} tokens = .ok reading)
    (hfinish : reading.finish query.utf8ByteSize = .error fault) :
    PointsAt maxDepth query "" fault := by
  rw [Reading.finish_eq_error hfinish]
  refine .ending rfl hscan (beginsAccepted_iff_run.2 ⟨reading, hrun⟩) fun tree htree => ?_
  -- Where the query ends makes no difference to whether it may end there.
  have hwithin := Disjunction.ofTokensEndingAt_eq_ok_iff.1 htree
  have hread : Disjunction.ofTokensEndingAt maxDepth query.utf8ByteSize tokens = .ok tree :=
    Disjunction.ofTokensEndingAt_eq_ok_iff.2 hwithin
  rw [Disjunction.ofTokensEndingAt_of_run hrun, hfinish] at hread
  cases hread

/-- Every fault of reading a query points into the query or at its end. -/
theorem exists_pointsAt_of_ofQuery (hread : Disjunction.ofQuery maxDepth query = .error fault) :
    ∃ before after, query = before ++ after ∧ PointsAt maxDepth before after fault := by
  rcases Disjunction.ofQuery_error_cases hread with
    hscan | ⟨earlier, token, later, reading, hscan, hrun, hstep⟩ |
      ⟨tokens, reading, hscan, hrun, hfinish⟩
  · obtain ⟨before, c, hfirst, rfl⟩ := Token.scan_eq_error_iff.1 hscan
    obtain ⟨after, hquery⟩ := hfirst.begins
    rw [String.append_assoc] at hquery
    exact ⟨before, c.toString ++ after, hquery, .stray (hquery ▸ hfirst)⟩
  · exact exists_pointsAt_of_step hscan hrun hstep
  · exact ⟨query, "", by simp, pointsAt_of_finish hscan hrun hfinish⟩

/-- Nothing starts at the place of a fault exactly if the fault has found the end. -/
theorem PointsAt.after_eq_iff (hpoints : PointsAt maxDepth before after fault) :
    after = "" ↔
      ∃ expected, fault = .unexpectedToken before.utf8ByteSize expected "end of input" := by
  cases hpoints with
  | @stray c hfirst =>
    obtain ⟨rest, hquery⟩ := hfirst.begins
    refine iff_of_false ?_ (by simp)
    rintro rfl
    have hlength := congrArg String.length hquery
    simp at hlength
    omega
  | token hoffends =>
    obtain ⟨rest, htext, rfl⟩ := hoffends.begins
    refine iff_of_false (by simp [htext]) ?_
    rintro ⟨expected, hfault⟩
    injection hfault with _ _ hfound
    exact Token.describe_ne_end _ hfound
  | group hoffends =>
    obtain ⟨rest, htext, rfl⟩ := hoffends.begins
    exact iff_of_false (by simp [htext]) (by simp)
  | ending hafter => exact iff_of_true hafter ⟨_, rfl⟩

end FilterQuery

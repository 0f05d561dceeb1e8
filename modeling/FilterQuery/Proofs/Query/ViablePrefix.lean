import FilterQuery.Proofs.Query.Derivation

/-!
# Where rejected tokens go wrong

Every reading can be completed, so a run without fault has passed the beginning of an accepted list.
A fault therefore stands at the first token with which no accepted list goes on, or at the end if
the tokens merely stop too early. It is a fault of nesting exactly if only the limit is in the way.
-/

namespace FilterQuery

namespace Reading

variable {limit : Nat} {reading next : Reading} {token : Token} {tokens : List Token}

/-- Some tokens lead from the reading to the end of a query. -/
def Completable (limit : Nat) (reading : Reading) : Prop :=
  ∃ rest level last, reading.run limit rest = .ok ⟨[], level, .continuation last⟩

theorem Extends.completable (hextends : Extends limit reading token next)
    (hnext : next.Completable limit) : reading.Completable limit := by
  obtain ⟨rest, level, last, hrun⟩ := hnext
  exact ⟨token :: rest, level, last, run_cons_eq_ok_iff.2 ⟨next, hextends, hrun⟩⟩

/-- As many closing parentheses as there are open groups close them all. -/
theorem exists_run_closings {groups : List OpenGroup} (hlength : tokens.length = groups.length)
    (hkind : ∀ token ∈ tokens, token.kind = .punctuation .closeParen) (level : Level)
    (last : Term) :
    ∃ outer whole, run limit ⟨groups, level, .continuation last⟩ tokens =
      .ok ⟨[], outer, .continuation whole⟩ := by
  induction groups generalizing tokens level last with
  | nil =>
    have hnone : tokens = [] := List.length_eq_zero_iff.1 hlength
    exact ⟨level, last, by rw [hnone, run_nil]⟩
  | cons group groups ih =>
    cases tokens with
    | nil => cases hlength
    | cons token tokens =>
      obtain ⟨htoken, htokens⟩ := List.forall_mem_cons.1 hkind
      obtain ⟨outer, whole, hrun⟩ := ih (Nat.succ.inj hlength) htokens group.outer
        (.group (level.disjunction last))
      exact ⟨outer, whole, run_cons_eq_ok_iff.2 ⟨_, .closeGroup htoken, hrun⟩⟩

theorem completable_continuation (limit : Nat) (groups : List OpenGroup) (level : Level)
    (last : Term) : Completable limit ⟨groups, level, .continuation last⟩ := by
  let close : Token := ⟨.punctuation .closeParen, ")", 0⟩
  have hkind : ∀ token ∈ List.replicate groups.length close,
      token.kind = .punctuation .closeParen := by
    intro token hmem
    rw [List.eq_of_mem_replicate hmem]
  exact ⟨_, exists_run_closings List.length_replicate hkind level last⟩

/-- Whatever a reading awaits can be given, and then its groups can be closed. -/
theorem completable (limit : Nat) (reading : Reading) : reading.Completable limit := by
  obtain ⟨groups, level, awaited⟩ := reading
  have hvalue : ∀ key, Completable limit ⟨groups, level, .value key⟩ := by
    intro key
    have hextends : Extends limit ⟨groups, level, .value key⟩ ⟨.value, "1", 0⟩ _ :=
      .value (.inr rfl)
    exact hextends.completable (completable_continuation limit groups level _)
  have hcolon : ∀ key, Completable limit ⟨groups, level, .colon key⟩ := by
    intro key
    have hextends : Extends limit ⟨groups, level, .colon key⟩ ⟨.punctuation .colon, ":", 0⟩ _ :=
      .colon rfl
    exact hextends.completable (hvalue key)
  cases awaited with
  | term =>
    have hextends : Extends limit ⟨groups, level, .term⟩ ⟨.key, "a", 0⟩ _ := .key rfl
    exact hextends.completable (hcolon "a")
  | colon key => exact hcolon key
  | value key => exact hvalue key
  | continuation last => exact completable_continuation limit groups level last

/-- A run without fault has passed the beginning of a list from which a tree is derived. -/
theorem exists_run_iff_derivedWithin :
    (∃ reading, Reading.run limit {} tokens = .ok reading) ↔
      ∃ rest, ∃ tree : Disjunction, tree.DerivedWithin limit (tokens ++ rest) := by
  constructor
  · rintro ⟨reading, hrun⟩
    obtain ⟨rest, level, last, hrest⟩ := reading.completable limit
    have hwhole := run_append_eq_ok_iff.2 ⟨reading, hrun, hrest⟩
    exact ⟨rest, _, (run_finish_eq_ok_iff 0).1
      ⟨_, hwhole, finish_eq_ok_iff.2 ⟨level, last, rfl, rfl⟩⟩⟩
  · rintro ⟨rest, tree, htree⟩
    obtain ⟨final, hrun, _⟩ := (run_finish_eq_ok_iff 0).2 htree
    obtain ⟨reading, hreading, _⟩ := run_append_eq_ok_iff.1 hrun
    exact ⟨reading, hreading⟩

/-- As many groups are open as the tokens open and do not close. -/
def CountsOpen (reading : Reading) (tokens : List Token) : Prop :=
  reading.depth + (tokens.map (·.kind)).count (.punctuation .closeParen) =
    (tokens.map (·.kind)).count (.punctuation .openParen)

theorem CountsOpen.extend (hcounts : reading.CountsOpen tokens)
    (hextends : Extends limit reading token next) : next.CountsOpen (tokens ++ [token]) := by
  simp only [CountsOpen, List.map_append, List.count_append] at hcounts ⊢
  cases hextends with
  | openGroup hkind _ | closeGroup hkind =>
    simp only [depth, List.length_cons, List.map_cons, hkind] at hcounts ⊢
    simp
    omega
  | key hkind | colon hkind | and hkind | or hkind => simpa [depth, hkind] using hcounts
  | value hkind => rcases hkind with hkind | hkind <;> simpa [depth, hkind] using hcounts

theorem countsOpen_of_run (hrun : Reading.run limit {} tokens = .ok reading) :
    reading.CountsOpen tokens := by
  have hstart : CountsOpen {} [] := rfl
  exact run_induction CountsOpen.extend hstart hrun

theorem depth_le_of_run (hrun : Reading.run limit {} tokens = .ok reading) :
    reading.depth ≤ limit := by
  obtain ⟨hgroups, _, _⟩ := readFrom_of_run hrun
  cases hgroups with
  | nil => exact Nat.zero_le limit
  | cons _ _ _ hroom => exact hroom

end Reading

/-- Some list that begins with the tokens is accepted. -/
def BeginsAccepted (maxDepth : Nat) (tokens : List Token) : Prop :=
  ∃ rest tree, Disjunction.ofTokens maxDepth (tokens ++ rest) = .ok tree

/-- The grammar derives some list that begins with the tokens, however deep its groups nest. -/
def BeginsDerived (tokens : List Token) : Prop :=
  ∃ rest, ∃ tree : Disjunction, tree.DerivedFrom (tokens ++ rest)

variable {maxDepth position : Nat} {tokens before after : List Token} {token : Token}
  {reading : Reading} {fault : Fault}

theorem beginsAccepted_iff_run :
    BeginsAccepted maxDepth tokens ↔
      ∃ reading, Reading.run (nestingLimit maxDepth) {} tokens = .ok reading := by
  rw [Reading.exists_run_iff_derivedWithin]
  simp only [BeginsAccepted, Disjunction.ofTokens, Disjunction.ofTokensEndingAt_eq_ok_iff]

theorem beginsDerived_iff_run :
    BeginsDerived tokens ↔ ∃ limit reading, Reading.run limit {} tokens = .ok reading := by
  simp only [Reading.exists_run_iff_derivedWithin]
  constructor
  · rintro ⟨rest, tree, hderived⟩
    exact ⟨tree.depth, rest, tree, hderived, Nat.le_refl tree.depth⟩
  · rintro ⟨limit, rest, tree, hderived, _⟩
    exact ⟨rest, tree, hderived⟩

/-- A token that is refused after a run under one limit is refused under every limit. -/
theorem not_beginsDerived_of_refused {limit : Nat}
    (hrun : Reading.run limit {} before = .ok reading)
    (hrefused : ∀ other next, ¬ Reading.Extends other reading token next) :
    ¬ BeginsDerived (before ++ [token]) := by
  intro hderived
  obtain ⟨other, final, hfinal⟩ := beginsDerived_iff_run.1 hderived
  obtain ⟨middle, hmiddle, hlast⟩ := Reading.run_append_eq_ok_iff.1 hfinal
  obtain ⟨next, hextends, _⟩ := Reading.run_cons_eq_ok_iff.1 hlast
  -- Both runs are runs under the larger limit, where only one of them can exist.
  have hfirst := Reading.run_mono (Nat.le_max_left limit other) hrun
  have hsecond := Reading.run_mono (Nat.le_max_right limit other) hmiddle
  rw [hfirst] at hsecond
  cases hsecond
  exact hrefused other next hextends

/-- What the fault of rejected tokens tells: `position` is the number of tokens before the first one
with which no accepted list goes on, or of all tokens if they only stop too early. -/
structure LocatesFault (maxDepth : Nat) (tokens : List Token) (fault : Fault) (position : Nat) :
    Prop where
  position_le : position ≤ tokens.length
  /-- The fault points at the token, or behind the last one. -/
  offset_eq : fault.offset? =
    some (tokens[position]?.elim (tokens.getLast?.elim 0 Token.stop) Token.offset)
  begins_before : BeginsAccepted maxDepth (tokens.take position)
  not_begins_after : position = tokens.length ∨
    ¬ BeginsAccepted maxDepth (tokens.take (position + 1))
  /-- A token that only the limit forbids opens a group inside as many as the limit allows. -/
  tooDeep : position < tokens.length → BeginsDerived (tokens.take (position + 1)) →
    (∃ offset, fault = .tooDeep offset (min maxDepth 128)) ∧
      tokens[position]?.map Token.kind = some (.punctuation .openParen) ∧
      ((tokens.take position).map Token.kind).count (.punctuation .openParen) =
        ((tokens.take position).map Token.kind).count (.punctuation .closeParen) +
          min maxDepth 128
  /-- Any other token, or the end, is what the fault says it found. -/
  unexpected : ¬ (position < tokens.length ∧ BeginsDerived (tokens.take (position + 1))) →
    ∃ offset expected,
      fault = .unexpectedToken offset expected
        (tokens[position]?.elim "end of input" Token.describe)
  /-- What comes after the token changes nothing. -/
  same_fault : position < tokens.length → ∀ rest,
    Disjunction.ofTokens maxDepth (tokens.take (position + 1) ++ rest) = .error fault

theorem Reading.finish_eq_error {stop : Nat} (hfinish : reading.finish stop = .error fault) :
    fault = .unexpectedToken stop reading.expectation "end of input" := by
  obtain ⟨groups, level, awaited⟩ := reading
  cases awaited <;> cases groups <;> simp_all [Reading.finish]

theorem locatesFault_length (hrun : Reading.run (nestingLimit maxDepth) {} tokens = .ok reading)
    (hfinish : reading.finish (Token.stopOf tokens) = .error fault) :
    LocatesFault maxDepth tokens fault tokens.length := by
  have hfault := Reading.finish_eq_error hfinish
  have hstop : Token.stopOf tokens = tokens.getLast?.elim 0 Token.stop := by
    rw [Token.stopOf]
    cases tokens.getLast? <;> rfl
  exact {
    position_le := Nat.le_refl _
    offset_eq := by simp [hfault, Fault.offset?, hstop]
    begins_before := beginsAccepted_iff_run.2 ⟨reading, by simpa using hrun⟩
    not_begins_after := .inl rfl
    tooDeep := fun hlt => absurd hlt (Nat.lt_irrefl _)
    unexpected := fun _ => ⟨_, _, by simpa using hfault⟩
    same_fault := fun hlt => absurd hlt (Nat.lt_irrefl _) }

theorem locatesFault_append (hoffset : fault.offset? = some token.offset)
    (hbegins : BeginsAccepted maxDepth before)
    (hsame : ∀ rest, Disjunction.ofTokens maxDepth (before ++ [token] ++ rest) = .error fault)
    (hdeep : BeginsDerived (before ++ [token]) →
      (∃ offset, fault = .tooDeep offset (min maxDepth 128)) ∧
        token.kind = .punctuation .openParen ∧
        (before.map Token.kind).count (.punctuation .openParen) =
          (before.map Token.kind).count (.punctuation .closeParen) + min maxDepth 128)
    (hunexpected : ¬ BeginsDerived (before ++ [token]) →
      ∃ offset expected, fault = .unexpectedToken offset expected token.describe)
    (after : List Token) :
    LocatesFault maxDepth (before ++ token :: after) fault before.length := by
  have hbefore : (before ++ token :: after).take before.length = before := List.take_left
  have hthrough : (before ++ token :: after).take (before.length + 1) = before ++ [token] := by
    rw [List.append_cons]
    exact List.take_left' (by simp)
  have hat : (before ++ token :: after)[before.length]? = some token := by simp
  have hlt : before.length < (before ++ token :: after).length := by simp
  have hnever : ¬ BeginsAccepted maxDepth (before ++ [token]) := by
    rintro ⟨rest, tree, htree⟩
    rw [hsame] at htree
    cases htree
  refine ⟨hlt.le, ?_, ?_, .inr ?_, ?_, ?_, ?_⟩
  · simpa [hat] using hoffset
  · rwa [hbefore]
  · rwa [hthrough]
  · rw [hthrough, hbefore, hat]
    intro _ hderived
    simpa using hdeep hderived
  · rw [hthrough, hat]
    exact fun hnot => hunexpected fun hderived => hnot ⟨hlt, hderived⟩
  · rw [hthrough]
    exact fun _ => hsame

/-- A fault of a run stands at the token whose step fails. -/
theorem locatesFault_of_step
    (hrun : Reading.run (nestingLimit maxDepth) {} before = .ok reading)
    (hstep : reading.step (nestingLimit maxDepth) token = .error fault) :
    LocatesFault maxDepth (before ++ token :: after) fault before.length := by
  have hbegins : BeginsAccepted maxDepth before := beginsAccepted_iff_run.2 ⟨reading, hrun⟩
  have hsame : ∀ rest,
      Disjunction.ofTokens maxDepth (before ++ [token] ++ rest) = .error fault := by
    intro rest
    have hfails : Reading.run (nestingLimit maxDepth) {} (before ++ [token] ++ rest) =
        .error fault :=
      Reading.run_eq_error_iff.2 ⟨before, token, rest, reading, by simp, hrun, hstep⟩
    exact Disjunction.ofTokensEndingAt_of_fault hfails _
  rcases Reading.step_eq_error hstep with ⟨rfl, hkind, hfull, hroom⟩ | ⟨rfl, _, hnone⟩
  · have hdepth : reading.depth = nestingLimit maxDepth :=
      Nat.le_antisymm (Reading.depth_le_of_run hrun) hfull
    have hcounts := Reading.countsOpen_of_run hrun
    rw [Reading.CountsOpen, hdepth, Nat.add_comm] at hcounts
    -- One more level is all that the token needs.
    have hderived : BeginsDerived (before ++ [token]) := by
      obtain ⟨next, hextends⟩ := hroom (reading.depth + 1) (Nat.lt_succ_self _)
      have hdeeper := Reading.run_mono (Nat.le_succ_of_le hfull) hrun
      refine beginsDerived_iff_run.2 ⟨reading.depth + 1, next, ?_⟩
      rw [Reading.run_append_of_ok hdeeper]
      exact Reading.run_cons_eq_ok_iff.2 ⟨next, hextends, rfl⟩
    refine locatesFault_append rfl hbegins hsame (fun _ => ⟨⟨_, rfl⟩, hkind, hcounts.symm⟩) ?_ after
    exact fun hnot => absurd hderived hnot
  · have hnot := not_beginsDerived_of_refused hrun hnone
    refine locatesFault_append rfl hbegins hsame (fun hderived => absurd hderived hnot) ?_ after
    exact fun _ => ⟨_, _, rfl⟩

/-- Tokens that are not read as a tree have a place where they go wrong. -/
theorem exists_locatesFault (hrejected : Disjunction.ofTokens maxDepth tokens = .error fault) :
    ∃ position, LocatesFault maxDepth tokens fault position := by
  rw [Disjunction.ofTokens, Disjunction.ofTokensEndingAt, bind_eq_error_iff] at hrejected
  rcases hrejected with hrun | ⟨reading, hrun, hfinish⟩
  · obtain ⟨before, token, after, reading, rfl, hbefore, hstep⟩ := Reading.run_eq_error_iff.1 hrun
    exact ⟨before.length, locatesFault_of_step hbefore hstep⟩
  · exact ⟨tokens.length, locatesFault_length hrun hfinish⟩

/-- `(since:2021 OR (` goes wrong at its second parenthesis if groups may not nest. -/
theorem exists_locatesFault_second_group :
    let tokens : List Token := [⟨.punctuation .openParen, "(", 0⟩, ⟨.key, "since", 1⟩,
      ⟨.punctuation .colon, ":", 6⟩, ⟨.value, "2021", 7⟩, ⟨.connective .or, "OR", 12⟩,
      ⟨.punctuation .openParen, "(", 15⟩, ⟨.punctuation .closeParen, ")", 16⟩]
    Disjunction.ofTokens 1 tokens = .error (.tooDeep 15 1) ∧
      ∃ position, LocatesFault 1 tokens (.tooDeep 15 1) position :=
  ⟨by decide, exists_locatesFault (by decide)⟩

end FilterQuery

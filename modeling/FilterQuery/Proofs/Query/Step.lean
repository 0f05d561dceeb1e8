import FilterQuery.Proofs.Outcome
import FilterQuery.Query.Reading

/-!
# What a token does to a reading

A token either extends a reading in one of seven ways or is refused. This file says once what each
way is, and what a whole run inherits from its single steps: it splits where its tokens split, and a
fault of a run is the fault of one step after a run without fault. Reading a query is scanning it, a
run and its end, and fails at one of the three.
-/

namespace FilterQuery.Reading

/-- The ways in which a token can extend a reading. -/
inductive Extends (limit : Nat) : Reading → Token → Reading → Prop
  | key {groups : List OpenGroup} {level : Level} {token : Token} (hkind : token.kind = .key) :
      Extends limit ⟨groups, level, .term⟩ token ⟨groups, level, .colon token.text⟩
  | openGroup {groups : List OpenGroup} {level : Level} {token : Token}
      (hkind : token.kind = .punctuation .openParen) (hroom : groups.length < limit) :
      Extends limit ⟨groups, level, .term⟩ token ⟨⟨token.offset, level⟩ :: groups, {}, .term⟩
  | colon {groups : List OpenGroup} {level : Level} {key : String} {token : Token}
      (hkind : token.kind = .punctuation .colon) :
      Extends limit ⟨groups, level, .colon key⟩ token ⟨groups, level, .value key⟩
  | value {groups : List OpenGroup} {level : Level} {key : String} {token : Token}
      (hkind : token.kind = .key ∨ token.kind = .value) :
      Extends limit ⟨groups, level, .value key⟩ token
        ⟨groups, level, .continuation (.leaf key token.text)⟩
  | and {groups : List OpenGroup} {level : Level} {last : Term} {token : Token}
      (hkind : token.kind = .connective .and) :
      Extends limit ⟨groups, level, .continuation last⟩ token ⟨groups, level.andThen last, .term⟩
  | or {groups : List OpenGroup} {level : Level} {last : Term} {token : Token}
      (hkind : token.kind = .connective .or) :
      Extends limit ⟨groups, level, .continuation last⟩ token ⟨groups, level.orThen last, .term⟩
  | closeGroup {group : OpenGroup} {groups : List OpenGroup} {level : Level} {last : Term}
      {token : Token} (hkind : token.kind = .punctuation .closeParen) :
      Extends limit ⟨group :: groups, level, .continuation last⟩ token
        ⟨groups, group.outer, .continuation (.group (level.disjunction last))⟩

variable {limit : Nat} {reading next : Reading} {token : Token} {tokens : List Token}
  {fault : Fault}

theorem Extends.step (hextends : Extends limit reading token next) :
    reading.step limit token = .ok next := by
  cases hextends with
  | key hkind => simp [Reading.step, hkind]
  | openGroup hkind hroom => simp [Reading.step, hkind, depth, hroom]
  | colon hkind => simp [Reading.step, hkind]
  | value hkind => rcases hkind with hkind | hkind <;> simp [Reading.step, hkind]
  | and hkind => simp [Reading.step, hkind]
  | or hkind => simp [Reading.step, hkind]
  | closeGroup hkind => simp [Reading.step, hkind]

/-- A token that extends the reading under no limit is refused under every limit. -/
theorem step_eq_refuse (hnever : ∀ other next, ¬ Extends other reading token next) (limit : Nat) :
    reading.step limit token = reading.refuse token := by
  obtain ⟨groups, level, awaited⟩ := reading
  cases awaited with
  | term =>
    simp only [Reading.step]
    split
    · next hkind => exact absurd (.key hkind) (hnever limit _)
    · next hkind => exact absurd (.openGroup hkind groups.length.lt_succ_self) (hnever _ _)
    · rfl
  | colon key =>
    simp only [Reading.step]
    split
    · next hkind => exact absurd (.colon hkind) (hnever limit _)
    · rfl
  | value key =>
    simp only [Reading.step]
    split
    · next hkind => exact absurd (.value (.inl hkind)) (hnever limit _)
    · next hkind => exact absurd (.value (.inr hkind)) (hnever limit _)
    · rfl
  | continuation last =>
    simp only [Reading.step]
    split
    · next hkind => exact absurd (.and hkind) (hnever limit _)
    · next hkind => exact absurd (.or hkind) (hnever limit _)
    · next hkind =>
      cases groups with
      | nil => rfl
      | cons group groups => exact absurd (.closeGroup hkind) (hnever limit _)
    · rfl

/-- A token extends the reading, opens a group too many, or is refused under every limit. -/
theorem step_cases (limit : Nat) (reading : Reading) (token : Token) :
    (∃ next, Extends limit reading token next) ∨
      (reading.step limit token = .error (.tooDeep token.offset limit) ∧
        token.kind = .punctuation .openParen ∧ limit ≤ reading.depth ∧
        ∀ other, reading.depth < other → ∃ next, Extends other reading token next) ∨
      (∀ other, reading.step other token = reading.refuse token) ∧
        ∀ other next, ¬ Extends other reading token next := by
  by_cases hsome : ∃ other next, Extends other reading token next
  · obtain ⟨other, next, hextends⟩ := hsome
    -- Only an open parenthesis depends on the limit.
    cases hextends with
    | @openGroup groups level _ hkind hroom =>
      by_cases hfits : groups.length < limit
      · exact .inl ⟨_, .openGroup hkind hfits⟩
      · refine .inr (.inl ⟨?_, hkind, Nat.le_of_not_lt hfits, fun other hother => ?_⟩)
        · simp [Reading.step, hkind, depth, hfits]
        · exact ⟨_, .openGroup hkind hother⟩
    | key hkind => exact .inl ⟨_, .key hkind⟩
    | colon hkind => exact .inl ⟨_, .colon hkind⟩
    | value hkind => exact .inl ⟨_, .value hkind⟩
    | and hkind => exact .inl ⟨_, .and hkind⟩
    | or hkind => exact .inl ⟨_, .or hkind⟩
    | closeGroup hkind => exact .inl ⟨_, .closeGroup hkind⟩
  · have hnever : ∀ other next, ¬ Extends other reading token next := by simpa using hsome
    exact .inr (.inr ⟨step_eq_refuse hnever, hnever⟩)

/-- The fault of a step is that of a group too many or that of a token refused under every limit. -/
theorem step_eq_error (hstep : reading.step limit token = .error fault) :
    (fault = .tooDeep token.offset limit ∧ token.kind = .punctuation .openParen ∧
        limit ≤ reading.depth ∧
        ∀ other, reading.depth < other → ∃ next, Extends other reading token next) ∨
      (fault = .unexpectedToken token.offset reading.expectation token.describe ∧
        (∀ other, reading.step other token = .error fault) ∧
        ∀ other next, ¬ Extends other reading token next) := by
  rcases step_cases limit reading token with ⟨next, hextends⟩ | ⟨hdeep, hroom⟩ | ⟨hrefused, hnone⟩
  · rw [hextends.step] at hstep
    cases hstep
  · rw [hdeep] at hstep
    exact .inl ⟨(Except.error.inj hstep).symm, hroom⟩
  · have hfault := hstep
    rw [hrefused limit] at hfault
    refine .inr ⟨(Except.error.inj hfault).symm, fun other => ?_, hnone⟩
    rw [hrefused other, hfault]

/-- A step succeeds in exactly the ways in which a token can extend a reading. -/
theorem step_eq_ok_iff :
    reading.step limit token = .ok next ↔ Extends limit reading token next := by
  constructor
  · intro hstep
    rcases step_cases limit reading token with ⟨other, hextends⟩ | ⟨hdeep, _⟩ | ⟨hrefused, _⟩
    · have hnext : next = other := by
        simpa [hextends.step] using hstep.symm
      exact hnext ▸ hextends
    · simp [hdeep] at hstep
    · simp [hrefused, refuse] at hstep
  · exact Extends.step

/-- A larger limit forbids nothing that a smaller one allows. -/
theorem Extends.mono {other : Nat} (hextends : Extends limit reading token next)
    (hle : limit ≤ other) : Extends other reading token next := by
  cases hextends with
  | openGroup hkind hroom => exact .openGroup hkind (Nat.lt_of_lt_of_le hroom hle)
  | key hkind => exact .key hkind
  | colon hkind => exact .colon hkind
  | value hkind => exact .value hkind
  | and hkind => exact .and hkind
  | or hkind => exact .or hkind
  | closeGroup hkind => exact .closeGroup hkind

/-! ## Runs -/

@[simp]
theorem run_nil (limit : Nat) (reading : Reading) : reading.run limit [] = .ok reading :=
  rfl

theorem run_cons (limit : Nat) (reading : Reading) (token : Token) (tokens : List Token) :
    reading.run limit (token :: tokens) =
      reading.step limit token >>= (·.run limit tokens) :=
  rfl

theorem run_cons_eq_ok_iff :
    reading.run limit (token :: tokens) = .ok next ↔
      ∃ middle, Extends limit reading token middle ∧ middle.run limit tokens = .ok next := by
  simp only [run_cons, bind_eq_ok_iff, step_eq_ok_iff]

theorem run_append (limit : Nat) (reading : Reading) (first second : List Token) :
    reading.run limit (first ++ second) =
      reading.run limit first >>= (·.run limit second) :=
  List.foldlM_append

theorem run_append_of_ok {rest : List Token} (hrun : reading.run limit tokens = .ok next) :
    reading.run limit (tokens ++ rest) = next.run limit rest := by
  rw [run_append, hrun]
  rfl

theorem run_append_eq_ok_iff {first second : List Token} :
    reading.run limit (first ++ second) = .ok next ↔
      ∃ middle, reading.run limit first = .ok middle ∧ middle.run limit second = .ok next := by
  rw [run_append, bind_eq_ok_iff]

/-- What single steps keep, whole runs keep. The property may speak of the tokens read so far. -/
theorem run_induction {property : Reading → List Token → Prop} {before : List Token}
    (hstep : ∀ {reading before token next}, property reading before →
      Extends limit reading token next → property next (before ++ [token]))
    (hstart : property reading before) (hrun : reading.run limit tokens = .ok next) :
    property next (before ++ tokens) := by
  induction tokens generalizing before reading with
  | nil =>
    cases hrun
    simpa using hstart
  | cons token tokens ih =>
    obtain ⟨middle, hextends, hrest⟩ := run_cons_eq_ok_iff.1 hrun
    simpa using ih (hstep hstart hextends) hrest

theorem run_mono {other : Nat} (hle : limit ≤ other) (hrun : reading.run limit tokens = .ok next) :
    reading.run other tokens = .ok next := by
  induction tokens generalizing reading with
  | nil => exact hrun
  | cons token tokens ih =>
    obtain ⟨middle, hextends, hrest⟩ := run_cons_eq_ok_iff.1 hrun
    exact run_cons_eq_ok_iff.2 ⟨middle, hextends.mono hle, ih hrest⟩

/-- A run fails at one token, whatever comes after it. -/
theorem run_eq_error_iff :
    reading.run limit tokens = .error fault ↔
      ∃ before token after middle, tokens = before ++ token :: after ∧
        reading.run limit before = .ok middle ∧ middle.step limit token = .error fault := by
  constructor
  · intro hrun
    induction tokens generalizing reading with
    | nil => cases hrun
    | cons token tokens ih =>
      rw [run_cons, bind_eq_error_iff] at hrun
      rcases hrun with hfault | ⟨next, hstep, hrest⟩
      · exact ⟨[], token, tokens, reading, rfl, rfl, hfault⟩
      · obtain ⟨before, faulty, after, middle, rfl, hbefore, hfault⟩ := ih hrest
        refine ⟨token :: before, faulty, after, middle, rfl, ?_, hfault⟩
        exact run_cons_eq_ok_iff.2 ⟨next, step_eq_ok_iff.1 hstep, hbefore⟩
  · rintro ⟨before, token, after, middle, rfl, hbefore, hfault⟩
    rw [run_append_of_ok hbefore, run_cons, hfault]
    rfl

end FilterQuery.Reading

/-! ## What runs come to -/

namespace FilterQuery.Disjunction

variable {maxDepth : Nat} {query : String} {tokens : List Token} {reading : Reading} {fault : Fault}

theorem ofTokensEndingAt_of_run
    (hrun : Reading.run (nestingLimit maxDepth) {} tokens = .ok reading) (stop : Nat) :
    ofTokensEndingAt maxDepth stop tokens = reading.finish stop := by
  rw [ofTokensEndingAt, hrun]
  rfl

theorem ofTokensEndingAt_of_fault
    (hrun : Reading.run (nestingLimit maxDepth) {} tokens = .error fault) (stop : Nat) :
    ofTokensEndingAt maxDepth stop tokens = .error fault := by
  rw [ofTokensEndingAt, hrun]
  rfl

theorem ofQuery_of_scan (hscan : Token.scan query = .ok tokens) (maxDepth : Nat) :
    ofQuery maxDepth query = ofTokensEndingAt maxDepth query.utf8ByteSize tokens := by
  rw [ofQuery, hscan]
  rfl

/-- Reading a query fails while it is scanned, at one of its tokens, or at its end. -/
theorem ofQuery_error_cases (hread : ofQuery maxDepth query = .error fault) :
    Token.scan query = .error fault ∨
      (∃ before token after reading, Token.scan query = .ok (before ++ token :: after) ∧
        Reading.run (nestingLimit maxDepth) {} before = .ok reading ∧
          reading.step (nestingLimit maxDepth) token = .error fault) ∨
      ∃ tokens reading, Token.scan query = .ok tokens ∧
        Reading.run (nestingLimit maxDepth) {} tokens = .ok reading ∧
          reading.finish query.utf8ByteSize = .error fault := by
  rcases bind_eq_error_iff.1 hread with hscan | ⟨tokens, hscan, htokens⟩
  · exact .inl hscan
  · rcases bind_eq_error_iff.1 htokens with hrun | ⟨reading, hrun, hfinish⟩
    · obtain ⟨before, token, after, reading, rfl, hbefore, hstep⟩ :=
        Reading.run_eq_error_iff.1 hrun
      exact .inr (.inl ⟨before, token, after, reading, hscan, hbefore, hstep⟩)
    · exact .inr (.inr ⟨tokens, reading, hscan, hrun, hfinish⟩)

end FilterQuery.Disjunction

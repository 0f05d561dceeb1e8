import FilterQuery.Proofs.Query.Balance
import FilterQuery.Proofs.Query.FaultPlace

/-!
# Hints about parentheses

Where the hint is to close a group, the query read so far is complete but for the parentheses that
close its open groups. Where the hint is to remove a closing parenthesis, that parenthesis may still
have an opening one: it has none exactly if no words in front of it would make it fit.
-/

namespace FilterQuery

/-! ## What the hints are chosen by -/

namespace Fault

variable {fault : Fault} {hint expected found : String} {offset : Nat}

/-- Hints about single parentheses are given where a token is out of place. -/
theorem exists_unexpectedToken (hhint : fault.hint? = some hint)
    (hparenthesis : hint = closeHint ∨ hint = unmatchedHint) :
    ∃ offset expected found, fault = .unexpectedToken offset expected found := by
  cases fault with
  | unexpectedToken offset expected found => exact ⟨offset, expected, found, rfl⟩
  | unexpectedChar offset c =>
    simp only [hint?, Option.some.injEq] at hhint
    rcases hparenthesis with rfl | rfl <;> simp [closeHint, unmatchedHint] at hhint
  | tooDeep offset limit =>
    simp only [hint?, Option.some.injEq] at hhint
    rcases hparenthesis with rfl | rfl <;> simp [closeHint, unmatchedHint] at hhint
  | unknownKey key known =>
    simp only [hint?] at hhint
    split_ifs at hhint
    have hfirst := congrArg (fun text => text.toList.head?) (Option.some.inj hhint)
    rcases hparenthesis with rfl | rfl <;> simp [closeHint, unmatchedHint] at hfirst
  | invalidValue key value reason =>
    simp only [hint?] at hhint
    split_ifs at hhint
    have hsame := Option.some.inj hhint
    rcases hparenthesis with rfl | rfl <;> simp [closeHint, unmatchedHint] at hsame

theorem contains_of_closeHint
    (hhint : (unexpectedToken offset expected found).hint? = some closeHint) :
    Text.contains expected "`)`" = true := by
  simp only [hint?] at hhint
  split_ifs at hhint with hexpected hconnective hfound
  · exact hexpected
  · simp [closeHint, connectiveHint] at hhint
  · simp [closeHint, unmatchedHint] at hhint

theorem contains_of_unmatchedHint
    (hhint : (unexpectedToken offset expected found).hint? = some unmatchedHint) :
    Text.contains found "`)`" = true := by
  simp only [hint?] at hhint
  split_ifs at hhint with hexpected hconnective hfound
  · simp [closeHint, unmatchedHint] at hhint
  · simp [connectiveHint, unmatchedHint] at hhint
  · exact hfound

end Fault

/-! ## Where reading stops -/

/-- Reading stops between the two texts: the first has been read, and neither the token with which
the second begins nor its end can follow. -/
structure StopsAt (maxDepth : Nat) (before after : String) (reading : Reading) (found : String) :
    Prop where
  read : ∃ tokens, Token.scan before = .ok tokens ∧
    Reading.run (nestingLimit maxDepth) {} tokens = .ok reading
  found_eq : (∃ (token : Token) (rest : String),
      token.Spelled ∧ after = token.text ++ rest ∧ found = token.describe) ∨
    after = "" ∧ found = "end of input"

variable {maxDepth offset : Nat} {query before after expected found : String} {fault : Fault}
  {reading : Reading}

/-- A token out of place is where reading stops. -/
theorem exists_stopsAt (hread : Disjunction.ofQuery maxDepth query =
      .error (.unexpectedToken offset expected found)) :
    ∃ before after reading, query = before ++ after ∧ offset = before.utf8ByteSize ∧
      expected = reading.expectation ∧ StopsAt maxDepth before after reading found := by
  rcases Disjunction.ofQuery_error_cases hread with
    hscan | ⟨earlier, token, later, reading, hscan, hearlier, hstep⟩ |
      ⟨tokens, reading, hscan, hrun, hfinish⟩
  · obtain ⟨before, c, _, hfault⟩ := Token.scan_eq_error_iff.1 hscan
    cases hfault
  · obtain ⟨before, rest, rfl, hoffset, hspelled, hbefore⟩ := Token.exists_split_of_scan hscan
    rcases Reading.step_eq_error hstep with ⟨hdeep, _⟩ | ⟨hrefused, _⟩
    · cases hdeep
    · injection hrefused with hplace hexpected hfound
      exact ⟨before, _, reading, rfl, hplace.trans hoffset, hexpected,
        ⟨earlier, hbefore, hearlier⟩, .inl ⟨token, rest, hspelled, rfl, hfound⟩⟩
  · injection Reading.finish_eq_error hfinish with hplace hexpected hfound
    exact ⟨query, "", reading, by simp, hplace, hexpected, ⟨tokens, hscan, hrun⟩,
      .inr ⟨rfl, hfound⟩⟩

namespace Token

variable {token : Token}

theorem mem_text_of_mem_describe (hmem : ')' ∈ token.describe.toList) :
    ')' ∈ token.text.toList := by
  obtain ⟨kind, text, offset⟩ := token
  cases kind <;> simpa [describe] using hmem

theorem Spelled.text_eq_close (hspelled : token.Spelled) (hmem : ')' ∈ token.text.toList) :
    token.text = ")" := by
  cases hspelled with
  | @mark c mark offset hmark =>
    have hc : ')' = c := by simpa using hmem
    subst hc
    rfl
  | @word word offset hword =>
    have hword : isWordChar ')' = true := hword.2 ')' hmem
    cases hword

end Token

namespace Reading

variable {limit : Nat} {tokens : List Token} {key : String}

/-- The key that is being read is a word. -/
theorem isWord_of_awaited (hrun : run limit {} tokens = .ok reading)
    (hspelled : ∀ token ∈ tokens, token.Spelled)
    (hawaited : reading.awaited = .colon key ∨ reading.awaited = .value key) : IsWord key := by
  obtain @⟨groups, level, awaited, outside, complete, current, _, _, hcurrent⟩ :=
    readFrom_of_run hrun
  have hkeyWord (token : Token) (hkey : token.kind = .key) (hmem : token ∈ current) :
      IsWord token.text := by
    have htoken := hspelled token (List.mem_append_right _ hmem)
    exact (isKeyShaped_iff.1 (htoken.isKeyShaped hkey)).1
  rcases hawaited with rfl | rfl
  · cases hcurrent with
    | colon hkey => exact hkeyWord _ hkey (by simp)
  · cases hcurrent with
    | value hkey hcolon => exact hkeyWord _ hkey (by simp)

/-- A closing parenthesis is expected only where it would close a group. -/
theorem exists_continuation (hrun : run limit {} tokens = .ok reading)
    (hspelled : ∀ token ∈ tokens, token.Spelled)
    (hcontains : Text.contains reading.expectation "`)`" = true) :
    ∃ group groups level last, reading = ⟨group :: groups, level, .continuation last⟩ := by
  have hmem : ')' ∈ reading.expectation.toList := Text.mem_of_contains hcontains (by decide)
  -- What is expected may quote the key, but a key has no parenthesis in it.
  have hkey (key : String) (hword : IsWord key) : ')' ∉ key.toList := by
    intro hclose
    have hchar : isWordChar ')' = true := hword.2 ')' hclose
    cases hchar
  obtain ⟨groups, level, awaited⟩ := reading
  cases awaited with
  | term => simp [expectation] at hmem
  | colon key =>
    have habsent := hkey key (isWord_of_awaited hrun hspelled (.inl rfl))
    simp [expectation, habsent] at hmem
  | value key =>
    have habsent := hkey key (isWord_of_awaited hrun hspelled (.inr rfl))
    simp [expectation, habsent] at hmem
  | continuation last =>
    cases groups with
    | nil => simp [expectation] at hmem
    | cons group groups => exact ⟨group, groups, level, last, rfl⟩

end Reading

/-! ## What the hints are worth -/

/-- Where the hint is to close a group, the query up to the fault is a query once every group that
it opens is closed. There is at least one. -/
theorem close_hint_completes (hread : Disjunction.ofQuery maxDepth query = .error fault)
    (hhint : fault.hint? = some Fault.closeHint) :
    ∃ before after missing, query = before ++ after ∧ fault.offset? = some before.utf8ByteSize ∧
      before.toList.count '(' = before.toList.count ')' + missing ∧ 1 ≤ missing ∧
      ∃ tree, Disjunction.ofQuery maxDepth
        (before ++ String.ofList (List.replicate missing ')')) = .ok tree := by
  obtain ⟨offset, expected, found, rfl⟩ := Fault.exists_unexpectedToken hhint (.inl rfl)
  have hcontains := Fault.contains_of_closeHint hhint
  obtain ⟨before, after, reading, rfl, rfl, rfl, hstops⟩ := exists_stopsAt hread
  obtain ⟨tokens, hscan, hrun⟩ := hstops.read
  have hspelled := Token.spelled_of_scanFrom hscan
  have hcount := Reading.depth_add_count hscan hrun
  obtain ⟨group, groups, level, last, rfl⟩ := Reading.exists_continuation hrun hspelled hcontains
  refine ⟨before, after, (group :: groups).length, rfl, rfl, ?_, Nat.succ_pos _, ?_⟩
  · rw [← hcount]
    exact Nat.add_comm _ _
  · exact Disjunction.exists_ofQuery_closings hscan hrun

/-- Two groups are open in front of the last parenthesis, and both can be closed there. -/
theorem close_hint_completes_nested :
    let query := "(since:2021 AND (until:2023 OR author:me ("
    let expected := "`AND`, `OR` or `)` closing the group at offset 16"
    let fault : Fault := .unexpectedToken 41 expected "`(`"
    Disjunction.ofQuery 64 query = .error fault ∧ fault.hint? = some Fault.closeHint ∧
      ∃ before after missing, query = before ++ after ∧ fault.offset? = some before.utf8ByteSize ∧
        before.toList.count '(' = before.toList.count ')' + missing ∧ 1 ≤ missing ∧
        ∃ tree, Disjunction.ofQuery 64
          (before ++ String.ofList (List.replicate missing ')')) = .ok tree := by
  intro query expected fault
  have hread : Disjunction.ofQuery 64 query = .error fault := by decide +kernel
  have hhint : fault.hint? = some Fault.closeHint := by decide +kernel
  exact ⟨hread, hhint, close_hint_completes hread hhint⟩

/-- Where the hint is to remove a closing parenthesis, there is one, and the query does not close
more groups in front of it than it opens. It closes as many exactly if no words would make the
parenthesis fit; otherwise something else is missing. -/
theorem unmatched_iff_no_words_fit (hread : Disjunction.ofQuery maxDepth query = .error fault)
    (hhint : fault.hint? = some Fault.unmatchedHint) :
    ∃ before after, query = before ++ (")" ++ after) ∧
      fault.offset? = some before.utf8ByteSize ∧
      before.toList.count ')' ≤ before.toList.count '(' ∧
      (before.toList.count ')' = before.toList.count '(' ↔
        ∀ words rest : String, '(' ∉ words.toList → ')' ∉ words.toList → ∀ tree,
          Disjunction.ofQuery maxDepth (before ++ words ++ (")" ++ rest)) ≠ .ok tree) := by
  obtain ⟨offset, expected, found, rfl⟩ := Fault.exists_unexpectedToken hhint (.inr rfl)
  have hcontains := Fault.contains_of_unmatchedHint hhint
  have hmem : ')' ∈ found.toList := Text.mem_of_contains hcontains (by decide)
  obtain ⟨before, after, reading, rfl, rfl, rfl, hstops⟩ := exists_stopsAt hread
  obtain ⟨tokens, hscan, hrun⟩ := hstops.read
  have hcount := Reading.depth_add_count hscan hrun
  rcases hstops.found_eq with ⟨token, rest, hspelled, rfl, rfl⟩ | ⟨_, rfl⟩
  · have htext := hspelled.text_eq_close (Token.mem_text_of_mem_describe hmem)
    refine ⟨before, rest, by rw [htext], rfl, by omega, ?_, ?_⟩
    · intro hbalanced words rest hopen hclose tree haccepted
      have hlt := Disjunction.count_lt_of_ofQuery haccepted
      simp only [String.toList_append, List.count_append, List.count_eq_zero.2 hopen,
        List.count_eq_zero.2 hclose] at hlt
      omega
    · intro hnone
      by_contra hunbalanced
      -- Inside a group, words complete the term, and then the parenthesis closes the group.
      obtain ⟨words, hopen, hclose, tree, haccepted⟩ :=
        Disjunction.exists_ofQuery_words_closings hscan hrun
      obtain ⟨depth, hdepth⟩ : ∃ depth, reading.depth = depth + 1 :=
        Nat.exists_eq_succ_of_ne_zero (by omega)
      rw [hdepth, closings_succ] at haccepted
      exact hnone words (closings depth) hopen hclose tree haccepted
  · simp at hmem

/-- The parenthesis behind a complete query has no opening one. -/
theorem unmatched_iff_no_words_fit_behind_group :
    let query := "(since:2021))"
    let fault : Fault := .unexpectedToken 12 "`AND`, `OR` or end of input" "`)`"
    Disjunction.ofQuery 64 query = .error fault ∧ fault.hint? = some Fault.unmatchedHint ∧
      ∃ before after, query = before ++ (")" ++ after) ∧
        fault.offset? = some before.utf8ByteSize ∧
        before.toList.count ')' ≤ before.toList.count '(' ∧
        (before.toList.count ')' = before.toList.count '(' ↔
          ∀ words rest : String, '(' ∉ words.toList → ')' ∉ words.toList → ∀ tree,
            Disjunction.ofQuery 64 (before ++ words ++ (")" ++ rest)) ≠ .ok tree) := by
  intro query fault
  have hread : Disjunction.ofQuery 64 query = .error fault := by decide +kernel
  have hhint : fault.hint? = some Fault.unmatchedHint := by decide +kernel
  exact ⟨hread, hhint, unmatched_iff_no_words_fit hread hhint⟩

/-- The parenthesis closes the group in front of it, which only lacks a term; the hint is to remove
the parenthesis. -/
theorem unmatched_hint_in_empty_group :
    let fault : Fault := .unexpectedToken 1 "key or `(`" "`)`"
    Disjunction.ofQuery 64 ("(" ++ ")") = .error fault ∧ fault.hint? = some Fault.unmatchedHint ∧
      fault.offset? = some "(".utf8ByteSize ∧
        "(".toList.count ')' ≠ "(".toList.count '(' ∧
          Disjunction.ofQuery 64 ("(" ++ "a:1" ++ ")") =
            .ok (.one (.one (.group (.one (.one (.leaf "a" "1")))))) := by
  decide +kernel

end FilterQuery

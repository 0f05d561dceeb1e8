import FilterQuery.Proofs.Query.Scanning

/-!
# Characters that no query can hold

A scan fails exactly if there is a character that is no blank, no mark and no character of words. It
fails at the first such character, whatever follows, and what stands in front of it can be scanned.
-/

namespace FilterQuery.Token

/-- Whether a query can hold `c`: between its tokens, as a mark or in a word. -/
def isQueryChar (c : Char) : Bool :=
  Text.isBlank c || c == '(' || c == ')' || c == ':' || isWordChar c

theorem isQueryChar_eq (c : Char) :
    isQueryChar c = (Text.isBlank c || (Punctuation.ofChar? c).isSome || isWordChar c) := by
  have hmark : (Punctuation.ofChar? c).isSome = (c == '(' || c == ')' || c == ':') := by
    rw [Punctuation.ofChar?]
    split
    · next hopen => simp [hopen]
    · split
      · next hclose => simp [hclose]
      · split <;> simp_all
  rw [hmark, isQueryChar, ← Bool.or_assoc, ← Bool.or_assoc]

variable {offset : Nat} {chars : List Char} {fault : Fault} {query before : String} {c : Char}

/-- A scan passes what a query can hold and fails at the first character it cannot hold. -/
theorem scanFrom_eq_error_iff :
    scanFrom offset chars = .error fault ↔
      ∃ c rest, chars.dropWhile isQueryChar = c :: rest ∧
        fault = .unexpectedChar
          (offset + (String.ofList (chars.takeWhile isQueryChar)).utf8ByteSize) c := by
  fun_induction scanFrom offset chars with
  | case1 offset => simp
  | case2 offset c rest hblank ih =>
    have hc : isQueryChar c = true := by simp [isQueryChar_eq, hblank]
    rw [ih, List.dropWhile_cons_of_pos hc, List.takeWhile_cons_of_pos hc]
    simp [String.ofList_cons, Nat.add_assoc]
  | case3 offset c rest hblank mark hmark ih =>
    have hc : isQueryChar c = true := by simp [isQueryChar_eq, hmark]
    rw [map_eq_error_iff, ih, List.dropWhile_cons_of_pos hc, List.takeWhile_cons_of_pos hc]
    simp [String.ofList_cons, Nat.add_assoc]
  | case4 offset c rest hblank hmark hword word ih =>
    have hchars : ∀ d ∈ word.toList, isQueryChar d = true := by
      intro d hd
      simp [isQueryChar_eq, (isWord_takeWhile hword rest).2 d hd]
    have hsplit : c :: rest = word.toList ++ rest.dropWhile isWordChar := by
      rw [String.toList_ofList, List.cons_append, List.takeWhile_append_dropWhile]
    rw [map_eq_error_iff, ih, hsplit, List.dropWhile_append_of_pos hchars,
      List.takeWhile_append_of_pos hchars, String.ofList_append, String.ofList_toList,
      String.utf8ByteSize_append, Nat.add_assoc]
  | case5 offset c rest hblank hmark hword =>
    have hc : ¬ isQueryChar c = true := by simp [isQueryChar_eq, hblank, hmark, hword]
    rw [List.dropWhile_cons_of_neg hc, List.takeWhile_cons_of_neg hc]
    simp [eq_comm]

/-- In `query`, the first character that no query can hold is `c`, and `before` stands in front of
it. -/
structure FirstStray (query before : String) (c : Char) : Prop where
  begins : ∃ after, query = before ++ c.toString ++ after
  before_allowed : ∀ d ∈ before.toList, isQueryChar d = true
  stray : isQueryChar c = false

theorem firstStray_iff :
    FirstStray query before c ↔
      before = String.ofList (query.toList.takeWhile isQueryChar) ∧
        ∃ rest, query.toList.dropWhile isQueryChar = c :: rest := by
  constructor
  · rintro ⟨⟨after, rfl⟩, hbefore, hstray⟩
    have hc : ¬ isQueryChar c = true := by simp [hstray]
    have hchars : (before ++ c.toString ++ after).toList = before.toList ++ c :: after.toList := by
      simp
    rw [hchars, List.takeWhile_append_of_pos hbefore, List.dropWhile_append_of_pos hbefore,
      List.takeWhile_cons_of_neg hc, List.dropWhile_cons_of_neg hc]
    exact ⟨by simp, after.toList, rfl⟩
  · rintro ⟨rfl, rest, hrest⟩
    have hsplit := List.takeWhile_append_dropWhile (p := isQueryChar) (l := query.toList)
    have hstray := List.head?_dropWhile_not isQueryChar query.toList
    rw [hrest] at hsplit hstray
    refine ⟨⟨String.ofList rest, ?_⟩, fun d hd => ?_, by simpa using hstray⟩
    · apply String.toList_inj.1
      simpa using hsplit.symm
    · rw [String.toList_ofList] at hd
      exact List.mem_takeWhile_imp hd

theorem scan_eq_error_iff :
    scan query = .error fault ↔
      ∃ before c, FirstStray query before c ∧ fault = .unexpectedChar before.utf8ByteSize c := by
  rw [scan, scanFrom_eq_error_iff, Nat.zero_add]
  constructor
  · rintro ⟨c, rest, hrest, hfault⟩
    exact ⟨_, c, firstStray_iff.2 ⟨rfl, rest, hrest⟩, hfault⟩
  · rintro ⟨before, c, hfirst, hfault⟩
    obtain ⟨rfl, rest, hrest⟩ := firstStray_iff.1 hfirst
    exact ⟨c, rest, hrest, hfault⟩

theorem exists_fault_iff :
    (∃ fault, scan query = .error fault) ↔ ∃ c ∈ query.toList, isQueryChar c = false := by
  constructor
  · rintro ⟨fault, hscan⟩
    obtain ⟨before, c, ⟨⟨after, rfl⟩, _, hstray⟩, _⟩ := scan_eq_error_iff.1 hscan
    exact ⟨c, by simp, hstray⟩
  · rintro ⟨c, hc, hstray⟩
    cases hrest : query.toList.dropWhile isQueryChar with
    | nil =>
      have hallowed := List.dropWhile_eq_nil_iff.1 hrest c hc
      simp [hstray] at hallowed
    | cons d rest =>
      have hfirst := firstStray_iff.2 ⟨rfl, rest, hrest⟩
      exact ⟨_, scan_eq_error_iff.2 ⟨_, d, hfirst, rfl⟩⟩

theorem FirstStray.exists_scan (hfirst : FirstStray query before c) :
    ∃ tokens, scan before = .ok tokens := by
  cases hscan : scan before with
  | ok tokens => exact ⟨tokens, rfl⟩
  | error fault =>
    obtain ⟨d, hd, hstray⟩ := exists_fault_iff.1 ⟨fault, hscan⟩
    rw [hfirst.before_allowed d hd] at hstray
    cases hstray

/-- What follows the first stray character changes nothing. -/
theorem FirstStray.scan_append (hfirst : FirstStray query before c) (after : String) :
    scan (before ++ c.toString ++ after) = .error (.unexpectedChar before.utf8ByteSize c) :=
  scan_eq_error_iff.2
    ⟨before, c, ⟨⟨after, rfl⟩, hfirst.before_allowed, hfirst.stray⟩, rfl⟩

/-- A scan fails exactly if the text has a character that no query can hold. The fault is the first
such character with the bytes in front of it. What stands in front of it can be scanned, and nothing
that follows it matters. -/
theorem scan_fails_at_first_stray (query : String) :
    ((∃ fault, scan query = .error fault) ↔ ∃ c ∈ query.toList, isQueryChar c = false) ∧
      ∀ fault, scan query = .error fault ↔
        ∃ before c, FirstStray query before c ∧ fault = .unexpectedChar before.utf8ByteSize c ∧
          (∃ tokens, scan before = .ok tokens) ∧
            ∀ after, scan (before ++ c.toString ++ after) = .error fault := by
  refine ⟨exists_fault_iff, fun fault => ?_⟩
  rw [scan_eq_error_iff]
  constructor
  · rintro ⟨before, c, hfirst, rfl⟩
    exact ⟨before, c, hfirst, rfl, hfirst.exists_scan, hfirst.scan_append⟩
  · rintro ⟨before, c, hfirst, hfault, _⟩
    exact ⟨before, c, hfirst, hfault⟩

/-- A wide blank has three bytes, and a word may be cut short. -/
example : scan "since:2021\u3000AN$D é" = .error (.unexpectedChar 15 '$') := by
  decide +kernel

end FilterQuery.Token

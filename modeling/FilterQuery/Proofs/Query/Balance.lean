import FilterQuery.Proofs.Query.Spacing
import FilterQuery.Proofs.Query.StrayCharacter
import FilterQuery.Proofs.Query.ViablePrefix

/-!
# Open groups and parentheses

A reading has as many open groups as the text read so far opens and does not close. Once a term is
complete, as many closing parentheses complete the query; and before that, some words without
parentheses complete the term.
-/

namespace FilterQuery

/-! ## Parentheses of a text -/

theorem Punctuation.ofChar?_injective {c d : Char} {mark : Punctuation}
    (hc : ofChar? c = some mark) (hd : ofChar? d = some mark) : c = d := by
  rw [ofChar?] at hc hd
  split_ifs at hc hd <;> cases hc <;> cases hd <;> simp_all

theorem TokenKind.ofWord_ne_punctuation (word : String) (mark : Punctuation) :
    TokenKind.ofWord word ≠ .punctuation mark := by
  rw [ofWord]
  split
  · simp
  · split <;> simp

namespace Token

variable {c : Char} {mark : Punctuation} {token : Token} {text first second before after : String}
  {tokens : List Token}

theorem Spelled.count_text (hspelled : token.Spelled)
    (hmark : Punctuation.ofChar? c = some mark) :
    token.text.toList.count c = [token.kind].count (.punctuation mark) := by
  cases hspelled with
  | @mark d other offset hother =>
    by_cases hsame : d = c
    · subst hsame
      rw [hmark] at hother
      cases hother
      simp
    · have hkind : other ≠ mark := by
        rintro rfl
        exact hsame (Punctuation.ofChar?_injective hother hmark)
      simp [hsame, hkind]
  | @word word offset hword =>
    have habsent : c ∉ word.toList := by
      intro hc
      have hnone := Punctuation.ofChar?_of_isWordChar (hword.2 c hc)
      rw [hmark] at hnone
      cases hnone
    rw [List.count_eq_zero.2 habsent, eq_comm, List.count_eq_zero, List.mem_singleton]
    exact (TokenKind.ofWord_ne_punctuation word mark).symm

/-- A text has a mark as often as its tokens are that mark. -/
theorem count_of_scan (hscan : scan text = .ok tokens)
    (hmark : Punctuation.ofChar? c = some mark) :
    text.toList.count c = (tokens.map Token.kind).count (.punctuation mark) := by
  -- A mark is no blank, and without its blanks a text is those of its tokens.
  have hinked : (inked text).count c = text.toList.count c :=
    List.count_filter (by simp [Punctuation.isBlank_of_ofChar? hmark])
  rw [← hinked, inked_of_scan hscan]
  have hspelled := spelled_of_scanFrom hscan
  clear hscan hinked
  induction tokens with
  | nil => rfl
  | cons token tokens ih =>
    obtain ⟨htoken, htokens⟩ := List.forall_mem_cons.1 hspelled
    have hkinds : (token :: tokens).map Token.kind = [token.kind] ++ tokens.map Token.kind := rfl
    rw [List.flatMap_cons, List.count_append, ih htokens, htoken.count_text hmark, hkinds,
      List.count_append]

/-! ## Scans of two texts -/

/-- A text is scanned behind another that it does not continue. -/
theorem scan_append (hscan : scan first = .ok tokens) (hends : EndsWord second.toList) :
    scan (first ++ second) = (tokens ++ ·) <$> scanFrom first.utf8ByteSize second.toList := by
  obtain ⟨pieces, last, rfl, hlaid⟩ := exists_laidOut_of_scan hscan
  rw [scan, String.toList_append, scanFrom_append_of_laidOut hlaid hends, Nat.zero_add]

/-- The beginning of a text that can be scanned can be scanned. -/
theorem exists_scan_of_append (hscan : scan (before ++ after) = .ok tokens) :
    ∃ earlier, scan before = .ok earlier := by
  cases hbefore : scan before with
  | ok earlier => exact ⟨earlier, rfl⟩
  | error fault =>
    obtain ⟨c, hc, hstray⟩ := exists_fault_iff.1 ⟨fault, hbefore⟩
    have hwhole : c ∈ (before ++ after).toList := by simp [hc]
    obtain ⟨other, hother⟩ := exists_fault_iff.2 ⟨c, hwhole, hstray⟩
    rw [hscan] at hother
    cases hother

/-- The tokens of a text with a closing parenthesis in it. -/
theorem exists_scan_of_close (hscan : scan (before ++ (")" ++ after)) = .ok tokens) :
    ∃ earlier close later, tokens = earlier ++ close :: later ∧ scan before = .ok earlier ∧
      close.kind = .punctuation .closeParen := by
  obtain ⟨earlier, hearlier⟩ := exists_scan_of_append hscan
  have hchars : (")" ++ after).toList = ')' :: after.toList := by simp
  have hends : EndsWord (")" ++ after).toList := by
    rw [hchars]
    exact endsWord_cons (by decide) after.toList
  rw [scan_append hearlier hends, hchars, scanFrom_mark rfl] at hscan
  obtain ⟨behind, hbehind, rfl⟩ := map_eq_ok_iff.1 hscan
  obtain ⟨later, _, rfl⟩ := map_eq_ok_iff.1 hbehind
  exact ⟨earlier, _, later, rfl, hearlier, rfl⟩

end Token

/-! ## Closing all groups -/

/-- Some closing parentheses. -/
def closings (count : Nat) : String :=
  String.ofList (List.replicate count ')')

theorem closings_succ (count : Nat) : closings (count + 1) = ")" ++ closings count := by
  rw [closings, List.replicate_succ, String.ofList_cons]
  rfl

theorem endsWord_closings (count : Nat) : EndsWord (closings count).toList := by
  cases count with
  | zero => exact endsWord_nil
  | succ count =>
    rw [closings, String.toList_ofList, List.replicate_succ]
    exact endsWord_cons (by decide) _

namespace Token

theorem exists_scan_closings (count offset : Nat) :
    ∃ tokens, scanFrom offset (closings count).toList = .ok tokens ∧ tokens.length = count ∧
      ∀ token ∈ tokens, token.kind = .punctuation .closeParen := by
  rw [closings, String.toList_ofList]
  induction count generalizing offset with
  | zero => exact ⟨[], scanFrom_nil offset, rfl, by simp⟩
  | succ count ih =>
    obtain ⟨tokens, hscan, hlength, hkind⟩ := ih (offset + ')'.utf8Size)
    refine ⟨⟨.punctuation .closeParen, ')'.toString, offset⟩ :: tokens, ?_, ?_, ?_⟩
    · rw [List.replicate_succ, scanFrom_mark rfl, hscan]
      rfl
    · exact congrArg (· + 1) hlength
    · exact List.forall_mem_cons.2 ⟨rfl, hkind⟩

end Token

namespace Reading

variable {limit : Nat} {reading : Reading} {text : String} {tokens : List Token}

theorem Extends.depth_pos_of_close {next : Reading} {token : Token}
    (hextends : Extends limit reading token next)
    (hclose : token.kind = .punctuation .closeParen) : 0 < reading.depth := by
  cases hextends with
  | closeGroup => exact Nat.succ_pos _
  | key hkind | openGroup hkind | colon hkind | and hkind | or hkind =>
    rw [hkind] at hclose
    cases hclose
  | value hkind => rcases hkind with hkind | hkind <;> rw [hkind] at hclose <;> cases hclose

/-- As many groups are open as the text opens and does not close. -/
theorem depth_add_count (hscan : Token.scan text = .ok tokens)
    (hrun : run limit {} tokens = .ok reading) :
    reading.depth + text.toList.count ')' = text.toList.count '(' := by
  have hopening := Token.count_of_scan (c := '(') hscan rfl
  have hclosing := Token.count_of_scan (c := ')') hscan rfl
  rw [hopening, hclosing]
  exact countsOpen_of_run hrun

/-! ## Completing a term -/

/-- Read behind any text, the words complete the term that the reading awaits. -/
def CompletedBy (limit : Nat) (reading : Reading) (words : String) : Prop :=
  ∀ offset, ∃ tokens last, Token.scanFrom offset words.toList = .ok tokens ∧
    reading.run limit tokens = .ok { reading with awaited := .continuation last }

variable {groups : List OpenGroup} {level : Level} {awaited next : Awaited}

theorem CompletedBy.cons {kind : TokenKind} {words whole : String}
    (hnext : CompletedBy limit ⟨groups, level, next⟩ words) (hends : EndsWord words.toList)
    (text : String) (hwhole : whole.toList = ' ' :: (text.toList ++ words.toList))
    (hspelled : ∀ offset, Token.Spelled ⟨kind, text, offset⟩)
    (hextends : ∀ offset,
      Extends limit ⟨groups, level, awaited⟩ ⟨kind, text, offset⟩ ⟨groups, level, next⟩) :
    CompletedBy limit ⟨groups, level, awaited⟩ whole := by
  intro offset
  let token : Token := ⟨kind, text, offset + ' '.utf8Size⟩
  have htoken : token.Spelled := hspelled _
  obtain ⟨tokens, last, hscan, hrun⟩ := hnext token.stop
  refine ⟨token :: tokens, last, ?_, run_cons_eq_ok_iff.2 ⟨_, hextends _, hrun⟩⟩
  rw [hwhole, Token.scanFrom_blank rfl]
  apply (Token.scanFrom_token htoken fun _ => hends).trans
  rw [hscan]
  rfl

/-- Words for what is awaited, each behind a blank. -/
def wordsFor : Awaited → String
  | .term => " a : 1"
  | .colon _ => " : 1"
  | .value _ => " 1"
  | .continuation _ => ""

theorem not_mem_wordsFor (awaited : Awaited) :
    '(' ∉ (wordsFor awaited).toList ∧ ')' ∉ (wordsFor awaited).toList := by
  cases awaited <;> simp [wordsFor]

theorem endsWord_wordsFor (awaited : Awaited) : EndsWord (wordsFor awaited).toList := by
  have hblank : isWordChar ' ' = false := by decide
  cases awaited <;> simp [EndsWord, wordsFor, hblank]

theorem completedBy_wordsFor (limit : Nat) (groups : List OpenGroup) (level : Level)
    (awaited : Awaited) : CompletedBy limit ⟨groups, level, awaited⟩ (wordsFor awaited) := by
  have hcontinuation (last : Term) :
      CompletedBy limit ⟨groups, level, .continuation last⟩ (wordsFor (.continuation last)) := by
    intro offset
    exact ⟨[], last, Token.scanFrom_nil offset, rfl⟩
  have hvalue (key : String) :
      CompletedBy limit ⟨groups, level, .value key⟩ (wordsFor (.value key)) := by
    apply (hcontinuation (.leaf key "1")).cons (endsWord_wordsFor _) "1"
    · simp [wordsFor]
    · exact fun offset => .word (isWord_iff.2 (by decide))
    · exact fun offset => .value (.inr rfl)
  have hcolon (key : String) :
      CompletedBy limit ⟨groups, level, .colon key⟩ (wordsFor (.colon key)) := by
    apply (hvalue key).cons (endsWord_wordsFor _) ":"
    · simp [wordsFor]
    · exact fun offset => .mark (c := ':') rfl
    · exact fun offset => .colon rfl
  cases awaited with
  | term =>
    apply (hcolon "a").cons (endsWord_wordsFor _) "a"
    · simp [wordsFor]
    · exact fun offset => .word (isWord_iff.2 (by decide))
    · exact fun offset => .key rfl
  | colon key => exact hcolon key
  | value key => exact hvalue key
  | continuation last => exact hcontinuation last

end Reading

namespace Disjunction

variable {maxDepth : Nat} {before after : String} {tokens : List Token} {tree : Disjunction}

/-- A query whose last term is complete is accepted with its groups closed. -/
theorem exists_ofQuery_closings {groups : List OpenGroup} {level : Level} {last : Term}
    (hscan : Token.scan before = .ok tokens)
    (hrun : Reading.run (nestingLimit maxDepth) {} tokens =
      .ok ⟨groups, level, .continuation last⟩) :
    ∃ tree, ofQuery maxDepth (before ++ closings groups.length) = .ok tree := by
  obtain ⟨closers, hclosers, hlength, hkind⟩ :=
    Token.exists_scan_closings groups.length before.utf8ByteSize
  obtain ⟨outer, whole, hclose⟩ := Reading.exists_run_closings hlength hkind level last
  have hwhole : Token.scan (before ++ closings groups.length) = .ok (tokens ++ closers) := by
    rw [Token.scan_append hscan (endsWord_closings groups.length), hclosers]
    rfl
  refine ⟨outer.disjunction whole, ofQuery_eq_ok_iff.2 ⟨_, hwhole, ?_⟩⟩
  apply (Reading.run_finish_eq_ok_iff 0).1
  refine ⟨_, (Reading.run_append_of_ok hrun).trans hclose, ?_⟩
  exact Reading.finish_eq_ok_iff.2 ⟨outer, whole, rfl, rfl⟩

/-- Some words without parentheses and then as many closing parentheses as there are open groups
make a query of what has been read. -/
theorem exists_ofQuery_words_closings {reading : Reading} (hscan : Token.scan before = .ok tokens)
    (hrun : Reading.run (nestingLimit maxDepth) {} tokens = .ok reading) :
    ∃ words : String, '(' ∉ words.toList ∧ ')' ∉ words.toList ∧
      ∃ tree, ofQuery maxDepth (before ++ words ++ closings reading.depth) = .ok tree := by
  obtain ⟨groups, level, awaited⟩ := reading
  obtain ⟨hopen, hclose⟩ := Reading.not_mem_wordsFor awaited
  obtain ⟨more, last, hmore, hlast⟩ :=
    Reading.completedBy_wordsFor (nestingLimit maxDepth) groups level awaited before.utf8ByteSize
  have hwords : Token.scan (before ++ Reading.wordsFor awaited) = .ok (tokens ++ more) := by
    rw [Token.scan_append hscan (Reading.endsWord_wordsFor awaited), hmore]
    rfl
  refine ⟨Reading.wordsFor awaited, hopen, hclose, ?_⟩
  exact exists_ofQuery_closings hwords ((Reading.run_append_of_ok hrun).trans hlast)

/-- In an accepted query, a closing parenthesis stands behind more opening than closing ones. -/
theorem count_lt_of_ofQuery (hread : ofQuery maxDepth (before ++ (")" ++ after)) = .ok tree) :
    before.toList.count ')' < before.toList.count '(' := by
  obtain ⟨tokens, hscan, hwithin⟩ := ofQuery_eq_ok_iff.1 hread
  obtain ⟨earlier, close, later, rfl, hearlier, hclose⟩ := Token.exists_scan_of_close hscan
  obtain ⟨final, hrun, _⟩ := (Reading.run_finish_eq_ok_iff 0).2 hwithin
  obtain ⟨reading, hreading, hrest⟩ := Reading.run_append_eq_ok_iff.1 hrun
  obtain ⟨next, hextends, _⟩ := Reading.run_cons_eq_ok_iff.1 hrest
  have hcount := Reading.depth_add_count hearlier hreading
  have hopen := hextends.depth_pos_of_close hclose
  omega

end Disjunction

end FilterQuery

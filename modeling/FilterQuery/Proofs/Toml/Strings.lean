import FilterQuery.Toml.Written
import Mathlib.Data.List.Infix
import Mathlib.Tactic.SplitIfs

/-!
# Strings are read back

A text is written in one of four forms. Whatever its characters are, the form that is chosen can
hold it, and reading what is written gives the text again and stops behind it. The only condition is
that no quote follows.
-/

namespace FilterQuery.Toml

@[simp]
theorem prepend_some (c : Char) (text rest : List Char) :
    prepend c (some (text, rest)) = some (c :: text, rest) :=
  rfl

/-- Characters of which a test says different things are different. -/
theorem ne_of_test {p : Char → Bool} {c other : Char} {outcome : Bool} (hc : p c = outcome)
    (hother : p other = !outcome) : c ≠ other := by
  intro heq
  rw [← heq, hc] at hother
  cases outcome <;> cases hother

/-! ## Escapes -/

/-- The ways to write a character between double quotes. -/
inductive Escaped (c : Char) : List Char → Prop
  | plain (hcontrol : isControl c = false) (hquote : c ≠ '"') (hbackslash : c ≠ '\\') :
      Escaped c [c]
  | letter {letter : Char} (hletter : letterEscape? letter = some c) : Escaped c ['\\', letter]
  | code {first second third fourth : Char}
      (hcode : codeEscape? [first, second, third, fourth] = some c) :
      Escaped c ['\\', 'u', first, second, third, fourth]

theorem toNat_lt_of_isControl {c : Char} (hcontrol : isControl c = true) : c.toNat < 128 := by
  simp only [isControl, Bool.or_eq_true, Bool.and_eq_true, decide_eq_true_eq,
    beq_iff_eq] at hcontrol
  omega

theorem codeEscape?_hexPair :
    ∀ code < 128, codeEscape? ('0' :: '0' :: hexPair code) = some (Char.ofNat code) := by
  decide

theorem escaped_escapeChar {c : Char} (hquote : c ≠ '"') : Escaped c (escapeChar c) := by
  unfold escapeChar
  split_ifs with hbackslash _ _ _ _ _ hcontrol
  any_goals
    subst c
    exact .letter rfl
  · apply Escaped.code
    have hcode := codeEscape?_hexPair c.toNat (toNat_lt_of_isControl hcontrol)
    rwa [Char.ofNat_toNat] at hcode
  · exact .plain (eq_false_of_ne_true hcontrol) hquote hbackslash

/-- The letters that start a code point are not escapes themselves. -/
theorem not_code_of_letterEscape? {letter c : Char} (hletter : letterEscape? letter = some c) :
    letter ≠ 'x' ∧ letter ≠ 'u' ∧ letter ≠ 'U' := by
  refine ⟨?_, ?_, ?_⟩ <;> rintro rfl <;> cases hletter

theorem basicString_escaped {c : Char} {written : List Char} (h : Escaped c written)
    (rest : List Char) : basicString (written ++ rest) = prepend c (basicString rest) := by
  cases h with
  | plain hcontrol hquote hbackslash =>
    rw [List.singleton_append, basicString, hcontrol]
    · rfl
    all_goals simp [hquote, hbackslash]
  | letter hletter =>
    have hnot := not_code_of_letterEscape? hletter
    rw [List.cons_append, List.singleton_append, basicString, hletter]
    all_goals simp [hnot]
  | code hcode =>
    simp only [List.cons_append, List.nil_append]
    rw [basicString, hcode]

theorem basicBlock_escaped {c : Char} {written : List Char} (h : Escaped c written)
    (rest : List Char) :
    basicBlock false (written ++ rest) = prepend c (basicBlock false rest) := by
  cases h with
  | plain hcontrol hquote hbackslash =>
    have hreturn : c ≠ '\r' := ne_of_test hcontrol rfl
    have hfeed : c ≠ '\n' := ne_of_test hcontrol rfl
    rw [List.singleton_append, basicBlock, hcontrol]
    · rfl
    all_goals simp [hquote, hbackslash, hreturn, hfeed]
  | letter hletter =>
    have hnot := not_code_of_letterEscape? hletter
    rw [List.cons_append, List.singleton_append, basicBlock, hletter]
    all_goals simp [hnot]
  | code hcode =>
    simp only [List.cons_append, List.nil_append]
    rw [basicBlock, hcode]

/-! ## Strings on one line -/

theorem basicString_basicBody (text rest : List Char) :
    basicString (basicBody text ++ '"' :: rest) = some (text, rest) := by
  induction text with
  | nil => rfl
  | cons c text ih =>
    have hescaped : Escaped c (if c = '"' then ['\\', '"'] else escapeChar c) := by
      split_ifs with hquote
      · subst hquote
        exact .letter rfl
      · exact escaped_escapeChar hquote
    rw [basicBody, List.flatMap_cons, List.append_assoc, basicString_escaped hescaped]
    exact congrArg (prepend c) ih

theorem literalString_append {text : List Char}
    (htext : ∀ c ∈ text, isControl c = false ∧ c ≠ '\'') (rest : List Char) :
    literalString (text ++ '\'' :: rest) = some (text, rest) := by
  induction text with
  | nil => rfl
  | cons c text ih =>
    obtain ⟨⟨hcontrol, hquote⟩, hrest⟩ := List.forall_mem_cons.1 htext
    rw [List.cons_append, literalString, ih hrest, hcontrol]
    · rfl
    · exact hquote

/-! ## Blocks -/

/-- A reader of blocks ends them at three marks. Up to two further ones belong to the text, and
fewer are marks like any others. -/
structure ReadsMarks (mark : Char) (read : List Char → Scanned) : Prop where
  none {rest : List Char} (hrest : rest.head? ≠ some mark) :
    read (mark :: mark :: mark :: rest) = some ([], rest)
  one {rest : List Char} (hrest : rest.head? ≠ some mark) :
    read (mark :: mark :: mark :: mark :: rest) = some ([mark], rest)
  two (rest : List Char) :
    read (mark :: mark :: mark :: mark :: mark :: rest) = some ([mark, mark], rest)
  inner {rest : List Char} (hrest : ¬ [mark, mark] <+: rest) :
    read (mark :: rest) = prepend mark (read rest)

theorem readsMarks_basicBlock : ReadsMarks '"' (basicBlock false) where
  none hrest := by
    rw [basicBlock]
    all_goals grind
  one hrest := by
    rw [basicBlock]
    grind
  two rest := by
    rw [basicBlock]
  inner hrest := by
    rw [basicBlock]
    · rfl
    all_goals grind

theorem readsMarks_literalBlock : ReadsMarks '\'' literalBlock where
  none hrest := by
    rw [literalBlock]
    all_goals grind
  one hrest := by
    rw [literalBlock]
    grind
  two rest := by
    rw [literalBlock]
  inner hrest := by
    rw [literalBlock]
    · rfl
    all_goals grind

/-- A mark is read as such in front of a text that does not start with two. -/
theorem ReadsMarks.cons {mark : Char} {read : List Char → Scanned} (hread : ReadsMarks mark read)
    {body text rest : List Char} (hrest : rest.head? ≠ some mark)
    (hbody : ¬ [mark, mark] <+: body)
    (htext : read (body ++ mark :: mark :: mark :: rest) = some (text, rest)) :
    read (mark :: (body ++ mark :: mark :: mark :: rest)) = some (mark :: text, rest) := by
  have hinner (h : ¬ [mark, mark] <+: body ++ mark :: mark :: mark :: rest) :
      read (mark :: (body ++ mark :: mark :: mark :: rest)) = some (mark :: text, rest) := by
    rw [hread.inner h, htext, prepend_some]
  -- The closing marks follow a body of at most one mark at once.
  match body with
  | [] =>
    rw [List.nil_append, hread.none hrest] at htext
    cases htext
    exact hread.one hrest
  | [first] =>
    by_cases hfirst : first = mark
    · rw [List.singleton_append, hfirst, hread.one hrest] at htext
      cases htext
      rw [hfirst]
      exact hread.two rest
    · apply hinner
      grind
  | first :: second :: body =>
    apply hinner
    grind

theorem literalBlock_append {text rest : List Char} (hrest : rest.head? ≠ some '\'')
    (hmarks : Text.occursIn ['\'', '\'', '\''] text = false)
    (hcontrol : ∀ c ∈ text, isControl c = true → c = '\n') :
    literalBlock (text ++ '\'' :: '\'' :: '\'' :: rest) = some (text, rest) := by
  induction text with
  | nil => exact readsMarks_literalBlock.none hrest
  | cons c text ih =>
    obtain ⟨hc, htext⟩ := List.forall_mem_cons.1 hcontrol
    obtain ⟨hfirst, hothers⟩ := Bool.or_eq_false_iff.1 hmarks
    have hread := ih hothers htext
    rw [List.cons_append]
    by_cases hquote : c = '\''
    · subst hquote
      apply readsMarks_literalBlock.cons hrest _ hread
      intro hprefix
      rw [List.isPrefixOf_cons_cons_self, List.isPrefixOf_iff_prefix.2 hprefix] at hfirst
      cases hfirst
    · by_cases hfeed : c = '\n'
      · subst hfeed
        rw [literalBlock, hread, prepend_some]
      · have hplain : isControl c = false := eq_false_of_ne_true fun h => hfeed (hc h)
        have hreturn : c ≠ '\r' := ne_of_test hplain rfl
        rw [literalBlock, hplain, hread]
        · rfl
        all_goals simp [hquote, hfeed, hreturn]

theorem Escaped.exists_eq_cons {c : Char} {written : List Char} (h : Escaped c written) :
    ∃ first others, written = first :: others ∧ first ≠ '"' ∧ isControl first = false := by
  cases h with
  | plain hcontrol hquote hbackslash => exact ⟨c, [], rfl, hquote, hcontrol⟩
  | letter hletter => exact ⟨'\\', _, rfl, by decide, rfl⟩
  | code hcode => exact ⟨'\\', _, rfl, by decide, rfl⟩

theorem basicBlockBody_quote {quotes : Nat} (hquotes : quotes ≠ 2) (text : List Char) :
    basicBlockBody quotes ('"' :: text) = '"' :: basicBlockBody (quotes + 1) text := by
  rw [basicBlockBody, if_neg hquotes]

/-- All characters but line breaks and the first two quotes in a row are escaped. -/
theorem exists_escaped_basicBlockBody (quotes : Nat) {c : Char} (hquote : c = '"' → quotes = 2)
    (hfeed : c ≠ '\n') (text : List Char) :
    ∃ written, Escaped c written ∧
      basicBlockBody quotes (c :: text) = written ++ basicBlockBody 0 text := by
  by_cases h : c = '"'
  · subst h
    refine ⟨['\\', '"'], .letter rfl, ?_⟩
    rw [basicBlockBody, if_pos (hquote rfl)]
    rfl
  · refine ⟨escapeChar c, escaped_escapeChar h, ?_⟩
    rw [basicBlockBody]
    · exact h
    · exact hfeed

/-- What is written is a quote only if the text starts with one and fewer than two come before. -/
theorem head?_basicBlockBody_ne {quotes : Nat} {text : List Char}
    (hquotes : text.head? = some '"' → quotes = 2) :
    (basicBlockBody quotes text).head? ≠ some '"' := by
  cases text with
  | nil => simp [basicBlockBody]
  | cons c text =>
    by_cases hfeed : c = '\n'
    · simp [hfeed, basicBlockBody]
    · obtain ⟨written, hescaped, heq⟩ :=
        exists_escaped_basicBlockBody quotes (by simpa using hquotes) hfeed text
      obtain ⟨first, others, rfl, hfirst, _⟩ := hescaped.exists_eq_cons
      simpa [heq] using hfirst

theorem exists_basicBlockBody_eq_cons {c : Char} (hfeed : c ≠ '\n') (text : List Char) :
    ∃ first others, basicBlockBody 0 (c :: text) = first :: others ∧ isControl first = false := by
  by_cases hquote : c = '"'
  · subst hquote
    exact ⟨'"', _, basicBlockBody_quote (by decide) text, rfl⟩
  · obtain ⟨written, hescaped, heq⟩ :=
      exists_escaped_basicBlockBody 0 (fun h => absurd h hquote) hfeed text
    obtain ⟨first, others, rfl, _, hfirst⟩ := hescaped.exists_eq_cons
    exact ⟨first, _, heq, hfirst⟩

/-- After one or two quotes, two more do not follow. -/
theorem not_quotes_prefix_basicBlockBody {quotes : Nat} (hquotes : quotes = 1 ∨ quotes = 2)
    (text : List Char) : ¬ ['"', '"'] <+: basicBlockBody quotes text := by
  rintro ⟨after, hafter⟩
  by_cases hfirst : text.head? = some '"' → quotes = 2
  · apply head?_basicBlockBody_ne hfirst
    rw [← hafter]
    rfl
  · obtain ⟨hhead, hne⟩ := Classical.not_imp.1 hfirst
    obtain ⟨others, rfl⟩ := List.head?_eq_some_iff.1 hhead
    have hone : quotes = 1 := hquotes.resolve_right hne
    rw [hone, basicBlockBody_quote (by decide)] at hafter
    have hhead : (basicBlockBody 2 others).head? ≠ some '"' :=
      head?_basicBlockBody_ne fun _ => rfl
    apply hhead
    rw [← (List.cons.inj hafter).2]
    rfl

theorem basicBlock_basicBlockBody {quotes : Nat} (hquotes : quotes ≤ 2) (text : List Char)
    {rest : List Char} (hrest : rest.head? ≠ some '"') :
    basicBlock false (basicBlockBody quotes text ++ '"' :: '"' :: '"' :: rest) =
      some (text, rest) := by
  induction text generalizing quotes with
  | nil => exact readsMarks_basicBlock.none hrest
  | cons c text ih =>
    by_cases hquote : c = '"' ∧ quotes ≠ 2
    · obtain ⟨rfl, hne⟩ := hquote
      have hnext : quotes + 1 = 1 ∨ quotes + 1 = 2 := by omega
      rw [basicBlockBody_quote hne]
      exact readsMarks_basicBlock.cons hrest (not_quotes_prefix_basicBlockBody hnext text)
        (ih (by omega))
    · by_cases hfeed : c = '\n'
      · subst hfeed
        rw [basicBlockBody, List.cons_append, basicBlock, ih (by omega)]
        rfl
      · obtain ⟨written, hescaped, heq⟩ :=
          exists_escaped_basicBlockBody quotes (by grind) hfeed text
        rw [heq, List.append_assoc, basicBlock_escaped hescaped, ih (by omega), prepend_some]

/-! ## The form that is chosen -/

/-- The text can be written in the form. -/
def StringForm.Holds (form : StringForm) (text : List Char) : Prop :=
  match form with
  | .basic => True
  | .literal => ∀ c ∈ text, isControl c = false ∧ c ≠ '\''
  | .basicBlock => True
  | .literalBlock =>
    Text.occursIn ['\'', '\'', '\''] text = false ∧ ∀ c ∈ text, isControl c = true → c = '\n'

theorem StringForm.of_holds (text : List Char) : (StringForm.of text).Holds text := by
  unfold StringForm.of
  extract_lets hasControl hasLineEnd hasBackslash
  by_cases hcontrol : hasControl = true
  · rw [if_pos hcontrol]
    split_ifs <;> trivial
  · have hfeeds : ∀ c ∈ text, isControl c = true → c = '\n' := by
      simpa [hasControl] using hcontrol
    rw [if_neg hcontrol]
    split_ifs with _ hliteral _ hliteralBlock
    · trivial
    · have hquote : '\'' ∉ text ∧ '\n' ∉ text := by
        simpa [hasLineEnd] using hliteral
      intro c hc
      refine ⟨eq_false_of_ne_true fun h => ?_, fun h => hquote.1 (h ▸ hc)⟩
      exact hquote.2 (hfeeds c hc h ▸ hc)
    · trivial
    · exact ⟨by simpa using hliteralBlock, hfeeds⟩
    · trivial
    · trivial

theorem dropFirstLineEnd_of_head {first : Char} (hfirst : isControl first = false)
    (rest : List Char) : dropFirstLineEnd (first :: rest) = first :: rest := by
  have hreturn : first ≠ '\r' := ne_of_test hfirst rfl
  have hfeed : first ≠ '\n' := ne_of_test hfirst rfl
  rw [dropFirstLineEnd, lineEnd?]
  · rfl
  · simp [hfeed]
  · simp [hreturn]

/-- The line break in front of a block is dropped. -/
theorem dropFirstLineEnd_blockStart {text body : List Char}
    (hbody : '\n' ∉ text → ∃ first others, body = first :: others ∧ isControl first = false) :
    dropFirstLineEnd (blockStart text ++ body) = body := by
  by_cases hfeed : '\n' ∈ text
  · rw [blockStart, if_pos (List.contains_iff_mem.2 hfeed)]
    rfl
  · obtain ⟨first, others, rfl, hfirst⟩ := hbody hfeed
    rw [blockStart, if_neg (List.contains_iff_mem.not.2 hfeed)]
    exact dropFirstLineEnd_of_head hfirst others

theorem quotedString_of_basicString {inside text rest : List Char}
    (hread : basicString inside = some (text, rest)) (hrest : rest.head? ≠ some '"') :
    quotedString ('"' :: inside) = some (text, rest) := by
  rw [quotedString]
  · exact hread
  · -- Two further quotes would end the string at the first and leave the second.
    rintro after rfl
    cases hread
    exact hrest rfl

theorem quotedString_of_literalString {inside text rest : List Char}
    (hread : literalString inside = some (text, rest)) (hrest : rest.head? ≠ some '\'') :
    quotedString ('\'' :: inside) = some (text, rest) := by
  rw [quotedString]
  · exact hread
  · rintro after rfl
    cases hread
    exact hrest rfl

theorem quotedString_write {form : StringForm} {text rest : List Char} (hform : form.Holds text)
    (hquote : rest.head? ≠ some '"') (hsingle : rest.head? ≠ some '\'') :
    quotedString (form.write text ++ rest) = some (text, rest) := by
  cases form with
  | basic =>
    simp only [StringForm.write, List.append_assoc, List.cons_append, List.nil_append]
    exact quotedString_of_basicString (basicString_basicBody text rest) hquote
  | literal =>
    simp only [StringForm.write, List.append_assoc, List.cons_append, List.nil_append]
    exact quotedString_of_literalString (literalString_append hform rest) hsingle
  | basicBlock =>
    have hread := basicBlock_basicBlockBody (Nat.zero_le 2) text hquote
    simp only [StringForm.write, List.append_assoc, List.cons_append, List.nil_append]
    rw [quotedString, dropFirstLineEnd_blockStart]
    · exact hread
    · intro hfeed
      cases text with
      | nil => exact ⟨'"', _, rfl, rfl⟩
      | cons c text =>
        have hc : c ≠ '\n' := fun h => hfeed (h ▸ List.mem_cons_self)
        obtain ⟨first, others, heq, hfirst⟩ := exists_basicBlockBody_eq_cons hc text
        exact ⟨first, _, by rw [heq, List.cons_append], hfirst⟩
  | literalBlock =>
    have hread := literalBlock_append hsingle hform.1 hform.2
    simp only [StringForm.write, List.append_assoc, List.cons_append, List.nil_append]
    rw [quotedString, dropFirstLineEnd_blockStart]
    · exact hread
    · intro hfeed
      cases text with
      | nil => exact ⟨'\'', _, rfl, rfl⟩
      | cons c text =>
        refine ⟨c, _, rfl, eq_false_of_ne_true fun h => ?_⟩
        exact hfeed (List.mem_cons.2 (.inl (hform.2 c List.mem_cons_self h).symm))

/-- What is written for a text is read as that text. -/
theorem quotedString_writeString (text : String) (rest : List Char)
    (hquote : rest.head? ≠ some '"') (hsingle : rest.head? ≠ some '\'') :
    quotedString ((writeString text).toList ++ rest) = some (text.toList, rest) := by
  rw [writeString, String.toList_ofList]
  exact quotedString_write (StringForm.of_holds text.toList) hquote hsingle

/-! ## Keys -/

theorem keyPart_basic (name rest : List Char) :
    keyPart (StringForm.basic.write name ++ rest) = some (name, rest) := by
  simp only [StringForm.write, List.append_assoc, List.cons_append, List.nil_append]
  exact basicString_basicBody name rest

theorem keyPart_literal {name : List Char} (hname : StringForm.literal.Holds name)
    (rest : List Char) : keyPart (StringForm.literal.write name ++ rest) = some (name, rest) := by
  simp only [StringForm.write, List.append_assoc, List.cons_append, List.nil_append]
  exact literalString_append hname rest

theorem forall_head?_cons {p : Char → Bool} {first : Char} (hfirst : p first = false)
    (rest : List Char) : ∀ c, (first :: rest).head? = some c → p c = false := by
  intro c hc
  cases hc
  exact hfirst

/-- A word that ends where its kind of characters does is cut off as a whole. -/
theorem takeWhile_append_rest {p : Char → Bool} {word rest : List Char}
    (hword : ∀ c ∈ word, p c = true) (hrest : ∀ c, rest.head? = some c → p c = false) :
    (word ++ rest).takeWhile p = word ∧ (word ++ rest).dropWhile p = rest := by
  have hstop : rest.takeWhile p = [] ∧ rest.dropWhile p = rest := by
    cases rest with
    | nil => exact ⟨rfl, rfl⟩
    | cons c rest => simp [hrest c rfl]
  rw [List.takeWhile_append_of_pos hword, List.dropWhile_append_of_pos hword, hstop.1, hstop.2]
  simp

theorem keyPart_bare {name rest : List Char} (hne : name ≠ [])
    (hname : name.all isBareKeyChar = true)
    (hrest : ∀ c, rest.head? = some c → isBareKeyChar c = false) :
    keyPart (name ++ rest) = some (name, rest) := by
  rw [List.all_eq_true] at hname
  obtain ⟨htake, hdrop⟩ := takeWhile_append_rest hname hrest
  cases name with
  | nil => exact absurd rfl hne
  | cons first others =>
    have hfirst := hname first List.mem_cons_self
    rw [List.cons_append] at htake hdrop ⊢
    rw [keyPart, htake, hdrop]
    all_goals
      intro after hquote
      cases hquote
      cases hfirst

/-- What is written for a name is read as that name. -/
theorem keyPart_writeKey (name : String) {rest : List Char}
    (hrest : ∀ c, rest.head? = some c → isBareKeyChar c = false) :
    keyPart ((writeKey name).toList ++ rest) = some (name.toList, rest) := by
  unfold writeKey
  extract_lets chars hasControl
  split_ifs with hbare hbasic hliteral
  · have hchars : chars ≠ [] ∧ chars.all isBareKeyChar = true := by
      simpa using hbare
    exact keyPart_bare hchars.1 hchars.2 hrest
  · rw [String.toList_ofList]
    exact keyPart_basic chars rest
  · rw [String.toList_ofList]
    have hchars : (∀ c ∈ chars, isControl c = false) ∧ '\'' ∉ chars := by
      simpa [hasControl] using hliteral
    apply keyPart_literal
    intro c hc
    exact ⟨hchars.1 c hc, fun h => hchars.2 (h ▸ hc)⟩
  · rw [String.toList_ofList]
    exact keyPart_basic chars rest

end FilterQuery.Toml

import FilterQuery.Proofs.Outcome
import FilterQuery.Query.Token.Scan
import Mathlib.Data.List.TakeWhile

/-!
# Scanning words and marks

How a scan goes on after each kind of beginning, and what the tokens of a whole scan are: marks, or
words as long as they can be. A word ends where no word character follows.
-/

namespace FilterQuery

theorem isWordChar_of_isKeyChar {c : Char} (hkey : isKeyChar c = true) : isWordChar c = true := by
  simp only [isKeyChar, Bool.or_eq_true] at hkey
  rcases hkey with hkey | hkey <;> simp [isWordChar, Char.isAlphanum, hkey]

theorem toNat_of_isWordChar {c : Char} (hword : isWordChar c = true) :
    (48 ≤ c.toNat ∧ c.toNat ≤ 57) ∨ (65 ≤ c.toNat ∧ c.toNat ≤ 90) ∨
      (97 ≤ c.toNat ∧ c.toNat ≤ 122) ∨ c.toNat = 95 ∨ c.toNat = 45 := by
  have hupper : c.isUpper = decide (c.val ≥ 65 ∧ c.val ≤ 90) := rfl
  have hlower : c.isLower = (decide (c.val ≥ 97) && decide (c.val ≤ 122)) := rfl
  have halpha : c.isAlpha = (c.isUpper || c.isLower) := rfl
  simp only [isWordChar, Char.isAlphanum, halpha, hupper, hlower, Char.isDigit,
    Bool.or_eq_true, Bool.and_eq_true, decide_eq_true_eq, beq_iff_eq, ge_iff_le,
    UInt32.le_iff_toNat_le] at hword
  rcases hword with (((hupper | hlower) | hdigit) | rfl) | rfl
  · exact .inr (.inl hupper)
  · exact .inr (.inr (.inl hlower))
  · exact .inl hdigit
  · exact .inr (.inr (.inr (.inl rfl)))
  · exact .inr (.inr (.inr (.inr rfl)))

theorem isBlank_of_isWordChar {c : Char} (hword : isWordChar c = true) :
    Text.isBlank c = false := by
  have hcode := toNat_of_isWordChar hword
  simp only [Text.isBlank, Bool.or_eq_false_iff, Bool.and_eq_false_iff, decide_eq_false_iff_not,
    beq_eq_false_iff_ne]
  omega

theorem Punctuation.ofChar?_of_isWordChar {c : Char} (hword : isWordChar c = true) :
    Punctuation.ofChar? c = none := by
  have hopen : c ≠ '(' := by rintro rfl; revert hword; decide
  have hclose : c ≠ ')' := by rintro rfl; revert hword; decide
  have hcolon : c ≠ ':' := by rintro rfl; revert hword; decide
  simp [Punctuation.ofChar?, hopen, hclose, hcolon]

theorem Punctuation.isBlank_of_ofChar? {c : Char} {mark : Punctuation}
    (hmark : Punctuation.ofChar? c = some mark) : Text.isBlank c = false := by
  simp only [Punctuation.ofChar?] at hmark
  split at hmark
  · next h => subst h; decide
  · split at hmark
    · next h => subst h; decide
    · split at hmark
      · next h => subst h; decide
      · cases hmark

/-- A word: characters of words, and at least one. -/
def IsWord (text : String) : Prop :=
  text ≠ "" ∧ ∀ c ∈ text.toList, isWordChar c = true

theorem isWord_iff {text : String} :
    IsWord text ↔ text.isEmpty = false ∧ text.toList.all isWordChar = true := by
  rw [IsWord, List.all_eq_true, ← Bool.not_eq_true, String.isEmpty_iff]

theorem Connective.ofWord?_eq_none_iff {word : String} :
    Connective.ofWord? word = none ↔ word ≠ "AND" ∧ word ≠ "OR" := by
  rw [Connective.ofWord?]
  split
  · next hand => simp [hand]
  · split <;> simp_all

theorem Connective.isWord_of_ofWord? {text : String} {word : Connective}
    (hword : Connective.ofWord? text = some word) : IsWord text := by
  rw [Connective.ofWord?] at hword
  split at hword
  · next hand => exact isWord_iff.2 (by subst hand; decide)
  · split at hword
    · next hor => exact isWord_iff.2 (by subst hor; decide)
    · cases hword

/-- Keys are the words that stand for keys. -/
theorem isKeyShaped_iff {name : String} :
    isKeyShaped name = true ↔ IsWord name ∧ TokenKind.ofWord name = .key := by
  rw [isWord_iff, isKeyShaped, TokenKind.ofWord]
  cases hword : Connective.ofWord? name with
  | some word => simp
  | none =>
    by_cases hkey : name.toList.all isKeyChar = true
    · have hchars : name.toList.all isWordChar = true := by
        rw [List.all_eq_true] at hkey ⊢
        exact fun c hc => isWordChar_of_isKeyChar (hkey c hc)
      simp [hkey, hchars]
    · simp [hkey]

/-- Values are the words that stand for keys or values. -/
theorem isValueShaped_iff {text : String} :
    isValueShaped text = true ↔
      IsWord text ∧ (TokenKind.ofWord text = .key ∨ TokenKind.ofWord text = .value) := by
  rw [isWord_iff, isValueShaped, TokenKind.ofWord]
  cases hword : Connective.ofWord? text with
  | some word => simp
  | none => by_cases hkey : text.toList.all isKeyChar = true <;> simp [hkey]

theorem isWord_takeWhile {c : Char} (hc : isWordChar c = true) (rest : List Char) :
    IsWord (String.ofList (c :: rest.takeWhile isWordChar)) := by
  refine ⟨by simp, fun d hd => ?_⟩
  rw [String.toList_ofList] at hd
  rcases List.mem_cons.1 hd with rfl | hd
  · exact hc
  · exact List.mem_takeWhile_imp hd

/-- The characters that follow do not continue a word. -/
def EndsWord (chars : List Char) : Prop :=
  ∀ c ∈ chars.head?, isWordChar c = false

theorem endsWord_nil : EndsWord [] := by
  simp [EndsWord]

theorem endsWord_cons {c : Char} (hc : isWordChar c = false) (rest : List Char) :
    EndsWord (c :: rest) := by
  simpa [EndsWord] using hc

theorem EndsWord.append {chars rest : List Char} (hchars : EndsWord chars)
    (hrest : EndsWord rest) : EndsWord (chars ++ rest) := by
  cases chars with
  | nil => exact hrest
  | cons c chars => exact endsWord_cons (hchars c rfl) (chars ++ rest)

theorem EndsWord.takeWhile {chars : List Char} (hends : EndsWord chars) :
    chars.takeWhile isWordChar = [] := by
  cases chars with
  | nil => rfl
  | cons c rest => simp [hends c rfl]

theorem EndsWord.dropWhile {chars : List Char} (hends : EndsWord chars) :
    chars.dropWhile isWordChar = chars := by
  cases chars with
  | nil => rfl
  | cons c rest => simp [hends c rfl]

namespace Token

/-- A token of a scan is a mark or a word, and a word is of the kind that its characters make it. -/
inductive Spelled : Token → Prop
  | mark {c : Char} {mark : Punctuation} {offset : Nat}
      (hmark : Punctuation.ofChar? c = some mark) :
      Spelled ⟨.punctuation mark, c.toString, offset⟩
  | word {word : String} {offset : Nat} (hword : IsWord word) :
      Spelled ⟨.ofWord word, word, offset⟩

theorem Spelled.text_ne_empty {token : Token} (hspelled : token.Spelled) : token.text ≠ "" := by
  cases hspelled with
  | mark hmark => simp [Char.toString]
  | word hword => exact hword.1

/-- No character of a token is a blank. -/
theorem Spelled.isBlank_eq_false {token : Token} (hspelled : token.Spelled) {c : Char}
    (hc : c ∈ token.text.toList) : Text.isBlank c = false := by
  cases hspelled with
  | @mark d mark offset hmark =>
    have hsame : c = d := by simpa using hc
    rw [hsame]
    exact Punctuation.isBlank_of_ofChar? hmark
  | word hword => exact isBlank_of_isWordChar (hword.2 c hc)

/-- A token of a scan that is a key can be a key of a query. -/
theorem Spelled.isKeyShaped {token : Token} (hspelled : token.Spelled)
    (hkind : token.kind = .key) : isKeyShaped token.text = true := by
  cases hspelled with
  | mark hmark => cases hkind
  | word hword => exact isKeyShaped_iff.2 ⟨hword, hkind⟩

/-- A token of a scan that is a key or a value can be a value of a query. -/
theorem Spelled.isValueShaped {token : Token} (hspelled : token.Spelled)
    (hkind : token.kind = .key ∨ token.kind = .value) : isValueShaped token.text = true := by
  cases hspelled with
  | mark hmark => rcases hkind with hkind | hkind <;> cases hkind
  | word hword => exact isValueShaped_iff.2 ⟨hword, hkind⟩

variable {offset : Nat} {c : Char} {rest : List Char}

@[simp]
theorem scanFrom_nil (offset : Nat) : scanFrom offset [] = .ok [] := by
  rw [scanFrom.eq_def]

theorem scanFrom_blank (hblank : Text.isBlank c = true) :
    scanFrom offset (c :: rest) = scanFrom (offset + c.utf8Size) rest := by
  rw [scanFrom.eq_def]
  exact if_pos hblank

theorem scanFrom_mark {mark : Punctuation} (hmark : Punctuation.ofChar? c = some mark) :
    scanFrom offset (c :: rest) =
      (⟨.punctuation mark, c.toString, offset⟩ :: ·) <$> scanFrom (offset + c.utf8Size) rest := by
  rw [scanFrom.eq_def]
  simp only [Punctuation.isBlank_of_ofChar? hmark, Bool.false_eq_true, if_false, hmark]

/-- A scan takes the whole word and goes on behind it. -/
theorem scanFrom_word {word : String} (hword : IsWord word) (hends : EndsWord rest) :
    scanFrom offset (word.toList ++ rest) =
      (⟨.ofWord word, word, offset⟩ :: ·) <$> scanFrom (offset + word.utf8ByteSize) rest := by
  obtain ⟨hnonempty, hchars⟩ := hword
  cases hlist : word.toList with
  | nil => exact absurd (String.toList_eq_nil_iff.1 hlist) hnonempty
  | cons c chars =>
    -- What the scan takes behind the first character is the rest of the word and no more.
    rw [hlist] at hchars
    have hc := hchars c List.mem_cons_self
    have htail : ∀ d ∈ chars, isWordChar d = true := fun d hd =>
      hchars d (List.mem_cons_of_mem c hd)
    have htake : (chars ++ rest).takeWhile isWordChar = chars := by
      rw [List.takeWhile_append_of_pos htail, hends.takeWhile, List.append_nil]
    have hdrop : (chars ++ rest).dropWhile isWordChar = rest := by
      rw [List.dropWhile_append_of_pos htail, hends.dropWhile]
    have hspelled : String.ofList (c :: chars) = word := by
      rw [← hlist, String.ofList_toList]
    rw [List.cons_append, scanFrom.eq_def]
    simp only [isBlank_of_isWordChar hc, Punctuation.ofChar?_of_isWordChar hc, hc, htake, hdrop,
      hspelled, Bool.false_eq_true, if_false, if_true]

theorem spelled_of_scanFrom {chars : List Char} {tokens : List Token}
    (hscan : scanFrom offset chars = .ok tokens) : ∀ token ∈ tokens, token.Spelled := by
  fun_induction scanFrom offset chars generalizing tokens with
  | case1 offset =>
    cases hscan
    simp
  | case2 offset c rest hblank ih => exact ih hscan
  | case3 offset c rest hblank mark hmark ih =>
    obtain ⟨further, hfurther, rfl⟩ := map_eq_ok_iff.1 hscan
    exact List.forall_mem_cons.2 ⟨.mark hmark, ih hfurther⟩
  | case4 offset c rest hblank hmark hword word =>
    rename_i ih
    obtain ⟨further, hfurther, rfl⟩ := map_eq_ok_iff.1 hscan
    have hspelled : Spelled ⟨.ofWord word, word, offset⟩ := .word (isWord_takeWhile hword rest)
    exact List.forall_mem_cons.2 ⟨hspelled, ih hfurther⟩
  | case5 offset c rest hblank hmark hword => cases hscan

end Token

end FilterQuery

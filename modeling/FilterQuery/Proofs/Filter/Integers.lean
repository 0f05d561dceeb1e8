import FilterQuery.Key.Rule
import FilterQuery.Proofs.Query.Scanning
import Mathlib.Algebra.Group.Int.Defs

/-!
# Values that are integers

The numerals of integers are digits with a minus sign in front or none. A key for integers does not
accept all words of this form: only those whose number fits in 64 bits.
-/

namespace FilterQuery

/-- Decimal digits, and at least one. -/
def AreDigits (digits : List Char) : Prop :=
  digits ≠ [] ∧ ∀ c ∈ digits, c.isDigit = true

/-- The text is decimal digits, with a minus sign in front or none, and stands for `number`. -/
inductive IsSignedNumeral : String → Int → Prop
  | plain {digits : List Char} (hdigits : AreDigits digits) :
      IsSignedNumeral (String.ofList digits) (Nat.ofDigitChars 10 digits 0)
  | negative {digits : List Char} (hdigits : AreDigits digits) :
      IsSignedNumeral (String.ofList ('-' :: digits)) (-Nat.ofDigitChars 10 digits 0)

variable {value : String} {digits : List Char} {number : Int}

theorem AreDigits.not_mem {c : Char} (hdigits : AreDigits digits) (hc : c.isDigit = false) :
    c ∉ digits := by
  intro hmem
  rw [hdigits.2 c hmem] at hc
  cases hc

theorem isSignedNumeral_of_minus (hminus : value.toList = '-' :: digits) :
    IsSignedNumeral value number ↔
      AreDigits digits ∧ number = -Nat.ofDigitChars 10 digits 0 := by
  constructor
  · intro hnumeral
    cases hnumeral with
    | plain hdigits =>
      rw [String.toList_ofList] at hminus
      exact absurd (hminus ▸ List.mem_cons_self) (hdigits.not_mem (c := '-') rfl)
    | negative hdigits =>
      rw [String.toList_ofList] at hminus
      obtain rfl := (List.cons.inj hminus).2
      exact ⟨hdigits, rfl⟩
  · rintro ⟨hdigits, rfl⟩
    have hvalue : value = String.ofList ('-' :: digits) := by
      rw [← hminus, String.ofList_toList]
    exact hvalue ▸ .negative hdigits

theorem isSignedNumeral_of_no_minus (hminus : ∀ digits, value.toList ≠ '-' :: digits) :
    IsSignedNumeral value number ↔
      AreDigits value.toList ∧ number = Nat.ofDigitChars 10 value.toList 0 := by
  constructor
  · intro hnumeral
    cases hnumeral with
    | plain hdigits =>
      rw [String.toList_ofList]
      exact ⟨hdigits, rfl⟩
    | @negative digits hdigits => exact absurd String.toList_ofList (hminus digits)
  · rintro ⟨hdigits, rfl⟩
    have hnumeral := IsSignedNumeral.plain hdigits
    rwa [String.ofList_toList] at hnumeral

namespace ValueFormat

theorem isNumeralUpTo_iff {greatest : Nat} :
    isNumeralUpTo greatest digits = true ↔
      AreDigits digits ∧ Nat.ofDigitChars 10 digits 0 ≤ greatest := by
  have hvalue : Text.decimalValue digits = Nat.ofDigitChars 10 digits 0 := rfl
  simp only [isNumeralUpTo, AreDigits, Bool.and_eq_true, Bool.not_eq_true',
    List.isEmpty_eq_false_iff, List.all_eq_true, decide_eq_true_eq, hvalue]

/-- Without a plus sign, the integers are the numerals of the numbers that fit in 64 bits. -/
theorem isInteger_iff (hplus : '+' ∉ value.toList) :
    isInteger value = true ↔
      ∃ number, IsSignedNumeral value number ∧ -2 ^ 63 ≤ number ∧ number < 2 ^ 63 := by
  rw [isInteger]
  split
  · next digits hminus =>
    simp only [isNumeralUpTo_iff, isSignedNumeral_of_minus hminus, and_assoc, exists_and_left,
      exists_eq_left]
    refine and_congr_right fun _ => ?_
    omega
  · next digits hsign =>
    rw [hsign] at hplus
    exact absurd List.mem_cons_self hplus
  · next hminus hsign =>
    simp only [isNumeralUpTo_iff, isSignedNumeral_of_no_minus hminus, and_assoc, exists_and_left,
      exists_eq_left]
    refine and_congr_right fun _ => ?_
    omega

theorem refusal?_integer_eq_none_iff :
    ValueFormat.integer.refusal? value = none ↔ isInteger value = true := by
  simp [refusal?, refusalBy?]

end ValueFormat

namespace Rule

theorem exists_compile_iff {rule : Rule} {key : String} :
    (∃ filter, rule.compile key value = .ok filter) ↔ rule.format.refusal? value = none := by
  rw [compile]
  cases rule.format.refusal? value <;> simp

/-- A key for integers accepts a word exactly if it is the numeral of an integer that fits in 64
bits. -/
theorem integers_accepted_iff_fit {rule : Rule} (hformat : rule.format = .integer) (key : String)
    (hword : IsWord value) :
    (∃ filter, rule.compile key value = .ok filter) ↔
      ∃ number, IsSignedNumeral value number ∧ -2 ^ 63 ≤ number ∧ number < 2 ^ 63 := by
  have hplus : '+' ∉ value.toList := by
    intro hmem
    exact absurd (hword.2 '+' hmem) (by decide)
  rw [exists_compile_iff, hformat, ValueFormat.refusal?_integer_eq_none_iff,
    ValueFormat.isInteger_iff hplus]

/-- The least integer of 64 bits, with zeros in front of its digits. -/
theorem integers_accepted_iff_fit_least :
    let rule := Rule.term "stars" .integer
    let value := "-0009223372036854775808"
    rule.format = .integer ∧ IsWord value ∧ rule.compile "stars" value = .ok (.term "stars" value) ∧
      ((∃ filter, rule.compile "stars" value = .ok filter) ↔
        ∃ number, IsSignedNumeral value number ∧ -2 ^ 63 ≤ number ∧ number < 2 ^ 63) := by
  intro rule value
  have hword : IsWord value := isWord_iff.2 (by decide +kernel)
  exact ⟨rfl, hword, by decide +kernel, integers_accepted_iff_fit rfl "stars" hword⟩

/-- One more than the greatest integer of 64 bits is a numeral in digits alone, and is refused. -/
theorem numeral_refused_beyond_64_bits :
    let rule := Rule.range "stars" .lower true .integer
    let value := "9223372036854775808"
    rule.format = .integer ∧ IsWord value ∧ IsSignedNumeral value 9223372036854775808 ∧
      rule.compile "stars" value = .error (.invalidValue "stars" value "expected an integer") := by
  intro rule value
  have hword : IsWord value := isWord_iff.2 (by decide +kernel)
  have hnumeral : IsSignedNumeral value 9223372036854775808 := by
    have hdigits : AreDigits value.toList :=
      ⟨by decide +kernel, List.all_eq_true.1 (by decide +kernel)⟩
    have hminus : ∀ digits, value.toList ≠ '-' :: digits := by
      intro digits heq
      exact hdigits.not_mem (c := '-') rfl (heq ▸ List.mem_cons_self)
    exact (isSignedNumeral_of_no_minus hminus).2 ⟨hdigits, by decide +kernel⟩
  exact ⟨rfl, hword, hnumeral, by decide +kernel⟩

end Rule

end FilterQuery

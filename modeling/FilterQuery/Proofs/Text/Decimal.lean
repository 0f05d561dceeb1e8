import FilterQuery.Text.Decimal
import Mathlib.Data.List.Induction
import Mathlib.Tactic.IntervalCases

/-!
# Numerals of a fixed width

A list of decimal digits is the numeral of its value with zeros in front. Hence the lists of `width`
digits are the numerals of the numbers below `10 ^ width`, and each is the numeral of one number
only.
-/

namespace FilterQuery.Text

/-- The decimal digits of `n` with as many zeros in front that they are `width` digits. -/
def numeral (width n : Nat) : List Char :=
  (Nat.toDigits 10 n).leftpad width '0'

variable {width n : Nat} {digits : List Char}

theorem isDigit_of_mem_numeral {c : Char} (hc : c ∈ numeral width n) : c.isDigit = true := by
  rw [numeral, List.leftpad, List.mem_append] at hc
  cases hc with
  | inl hzero =>
    rw [List.eq_of_mem_replicate hzero]
    rfl
  | inr hdigit => exact Nat.isDigit_of_mem_toDigits (by decide) (by decide) hdigit

theorem length_numeral (hwidth : 0 < width) (hn : n < 10 ^ width) :
    (numeral width n).length = width := by
  rw [numeral, List.length_leftpad]
  exact Nat.max_eq_left ((Nat.length_toDigits_le_iff (by decide) hwidth).2 hn)

theorem decimalValue_concat (front : List Char) (last : Char) :
    decimalValue (front ++ [last]) = 10 * decimalValue front + (last.toNat - '0'.toNat) := by
  rw [decimalValue, List.foldl_append]
  rfl

/-- Zeros in front of a numeral change nothing. -/
theorem decimalValue_numeral (width n : Nat) : decimalValue (numeral width n) = n := by
  have hvalue : decimalValue (numeral width n) = Nat.ofDigitChars 10 (numeral width n) 0 := rfl
  rw [hvalue, numeral, List.leftpad, Nat.ofDigitChars_append, Nat.ofDigitChars_replicate_zero,
    Nat.mul_zero, Nat.ofDigitChars_ten_toDigits]

/-- A further digit stands at the end. -/
theorem numeral_concat {d : Nat} (hwidth : 0 < width) (hd : d < 10) :
    numeral (width + 1) (10 * n + d) = numeral width n ++ [d.digitChar] := by
  cases n with
  | zero =>
    obtain ⟨before, rfl⟩ : ∃ before, width = before + 1 := Nat.exists_eq_add_one.2 hwidth
    rw [Nat.mul_zero, Nat.zero_add, numeral, numeral, Nat.toDigits_of_lt_base hd, Nat.toDigits_zero]
    simp [List.leftpad, List.replicate_succ']
  | succ n =>
    have hdigits : Nat.toDigits 10 (10 * (n + 1) + d) =
        Nat.toDigits 10 (n + 1) ++ [d.digitChar] := by
      rw [Nat.toDigits_of_base_le (by decide) (by omega)]
      congr 3 <;> omega
    simp [numeral, List.leftpad, hdigits]

/-- A digit is written for its value. -/
theorem digitChar_of_isDigit {c : Char} (hc : c.isDigit = true) :
    c.toNat - '0'.toNat < 10 ∧ (c.toNat - '0'.toNat).digitChar = c := by
  have hzero : '0'.toNat = 48 := rfl
  have hcode : 48 ≤ c.toNat ∧ c.toNat ≤ 57 := by
    simpa [Char.isDigit, UInt32.le_iff_toNat_le] using hc
  rw [hzero]
  refine ⟨by omega, Char.toNat_inj.1 ?_⟩
  rw [Nat.toNat_digitChar_of_lt_ten (by omega)]
  omega

/-- A list of digits is the numeral of its value. -/
theorem numeral_decimalValue (hne : digits ≠ []) (hdigits : ∀ c ∈ digits, c.isDigit = true) :
    numeral digits.length (decimalValue digits) = digits := by
  induction digits using List.reverseRecOn with
  | nil => exact absurd rfl hne
  | append_singleton front last ih =>
    obtain ⟨hless, hlast⟩ := digitChar_of_isDigit (hdigits last (by simp))
    have hfront : ∀ c ∈ front, c.isDigit = true := fun c hc => hdigits c (by simp [hc])
    rw [decimalValue_concat, List.length_append, List.length_singleton]
    cases front with
    | nil =>
      have hvalue : 10 * decimalValue [] + (last.toNat - '0'.toNat) = last.toNat - '0'.toNat :=
        Nat.zero_add _
      rw [hvalue, numeral, Nat.toDigits_of_lt_base hless, hlast]
      rfl
    | cons first others =>
      have hlength : 0 < (first :: others).length := Nat.succ_pos others.length
      rw [numeral_concat hlength hless, ih (List.cons_ne_nil first others) hfront, hlast]

theorem decimalValue_lt (hdigits : ∀ c ∈ digits, c.isDigit = true) :
    decimalValue digits < 10 ^ digits.length := by
  induction digits using List.reverseRecOn with
  | nil => decide
  | append_singleton front last ih =>
    have hfront := ih fun c hc => hdigits c (by simp [hc])
    have hlast := (digitChar_of_isDigit (hdigits last (by simp))).1
    rw [decimalValue_concat, List.length_append, List.length_singleton, Nat.pow_succ]
    omega

/-- The lists of `width` digits are the numerals of that width. -/
theorem isDigits_iff (hwidth : 0 < width) :
    isDigits width digits = true ↔ ∃ n < 10 ^ width, numeral width n = digits := by
  rw [isDigits, Bool.and_eq_true, beq_iff_eq, List.all_eq_true]
  constructor
  · rintro ⟨rfl, hdigits⟩
    have hne : digits ≠ [] := List.length_pos_iff.1 hwidth
    exact ⟨decimalValue digits, decimalValue_lt hdigits, numeral_decimalValue hne hdigits⟩
  · rintro ⟨n, hn, rfl⟩
    exact ⟨length_numeral hwidth hn, fun c hc => isDigit_of_mem_numeral hc⟩

end FilterQuery.Text

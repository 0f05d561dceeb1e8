/-!
# Texts between separators

A text is cut at every separator. Main statements: the parts with separators between them are the
text again, and parts without a separator in them are found again. In particular a text tells where
its first and its last separator stand.
-/

namespace FilterQuery.Text

/-- The parts of a list between separators. -/
def splitAtChar (separator : Char) : List Char → List (List Char)
  | [] => [[]]
  | c :: rest =>
    if c = separator then [] :: splitAtChar separator rest
    else
      match splitAtChar separator rest with
      | [] => [[c]]
      | part :: parts => (c :: part) :: parts

theorem splitAtChar_ne_nil (separator : Char) (chars : List Char) :
    splitAtChar separator chars ≠ [] := by
  cases chars with
  | nil => simp [splitAtChar]
  | cons c rest =>
    rw [splitAtChar]
    split
    · simp
    · split <;> simp

theorem intercalate_splitAtChar (separator : Char) (chars : List Char) :
    [separator].intercalate (splitAtChar separator chars) = chars := by
  induction chars with
  | nil => rfl
  | cons c rest ih =>
    rw [splitAtChar]
    split
    · next h =>
      subst h
      cases hs : splitAtChar c rest with
      | nil => exact absurd hs (splitAtChar_ne_nil c rest)
      | cons part parts => simp_all [List.intercalate]
    · cases hs : splitAtChar separator rest with
      | nil => exact absurd hs (splitAtChar_ne_nil separator rest)
      | cons part parts => cases parts <;> simp_all [List.intercalate]

theorem splitAtChar_of_not_mem {separator : Char} {part : List Char} (hpart : separator ∉ part) :
    splitAtChar separator part = [part] := by
  induction part with
  | nil => rfl
  | cons c rest ih =>
    rw [List.mem_cons, not_or] at hpart
    rw [splitAtChar, if_neg (Ne.symm hpart.1), ih hpart.2]

/-- A text is cut behind its first part. -/
theorem splitAtChar_append_cons {separator : Char} {part : List Char} (hpart : separator ∉ part)
    (rest : List Char) :
    splitAtChar separator (part ++ separator :: rest) = part :: splitAtChar separator rest := by
  induction part with
  | nil => rw [List.nil_append, splitAtChar, if_pos rfl]
  | cons c others ih =>
    rw [List.mem_cons, not_or] at hpart
    rw [List.cons_append, splitAtChar, if_neg (Ne.symm hpart.1), ih hpart.2]

/-- What stands in front of the first separator and what stands behind it are determined. -/
theorem append_cons_inj_of_not_mem_left {separator : Char} {part other rest others : List Char}
    (hpart : separator ∉ part) (hother : separator ∉ other)
    (heq : part ++ separator :: rest = other ++ separator :: others) :
    part = other ∧ rest = others := by
  have hcut := congrArg (splitAtChar separator) heq
  rw [splitAtChar_append_cons hpart, splitAtChar_append_cons hother] at hcut
  cases (List.cons.inj hcut).1
  exact ⟨rfl, (List.cons.inj (List.append_cancel_left heq)).2⟩

/-- What stands in front of the last separator and what stands behind it are determined. -/
theorem append_cons_inj_of_not_mem_right {separator : Char} {part other rest others : List Char}
    (hrest : separator ∉ rest) (hothers : separator ∉ others)
    (heq : part ++ separator :: rest = other ++ separator :: others) :
    part = other ∧ rest = others := by
  have hreverse : rest.reverse ++ separator :: part.reverse =
      others.reverse ++ separator :: other.reverse := by
    simpa using congrArg List.reverse heq
  have hcut := append_cons_inj_of_not_mem_left (mt List.mem_reverse.1 hrest)
    (mt List.mem_reverse.1 hothers) hreverse
  exact ⟨List.reverse_inj.1 hcut.2, List.reverse_inj.1 hcut.1⟩

end FilterQuery.Text

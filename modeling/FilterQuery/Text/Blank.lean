/-!
# Blank characters

The characters that separate words: those with the `White_Space` property.
-/

namespace FilterQuery.Text

/-- Whether `c` has the `White_Space` property. -/
def isBlank (c : Char) : Bool :=
  let code := c.toNat
  (9 ≤ code && code ≤ 13) || code == 0x20 || code == 0x85 || code == 0xA0 || code == 0x1680 ||
    (0x2000 ≤ code && code ≤ 0x200A) || code == 0x2028 || code == 0x2029 || code == 0x202F ||
    code == 0x205F || code == 0x3000

/-- Whether a text holds nothing but blank characters. -/
def allBlank (text : String) : Bool :=
  text.toList.all isBlank

/-- Every ASCII space character is blank. -/
theorem isBlank_of_isWhitespace {c : Char} (hspace : c.isWhitespace = true) : isBlank c = true := by
  simp only [Char.isWhitespace, Bool.or_eq_true, decide_eq_true_eq] at hspace
  rcases hspace with ((hspace | hspace) | hspace) | hspace <;> subst hspace <;> decide

end FilterQuery.Text

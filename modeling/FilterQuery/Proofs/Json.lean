import FilterQuery.Json
import Mathlib.Tactic.SplitIfs

/-!
# Characters of written JSON

Strings are written with their control characters escaped, so that the only control characters of a
value over several lines are the line feeds between its members.
-/

namespace FilterQuery

namespace Text

/-- No control character, unless it is a line feed. -/
def isPlainChar (c : Char) : Bool :=
  c == '\n' || 0x20 ≤ c.toNat

def isPlain (text : String) : Bool :=
  text.toList.all isPlainChar

variable {first second separator text : String} {parts : List String}

theorem isPlain_append (hfirst : isPlain first = true) (hsecond : isPlain second = true) :
    isPlain (first ++ second) = true := by
  rw [isPlain] at hfirst hsecond ⊢
  rw [String.toList_append, List.all_append, hfirst, hsecond]
  rfl

theorem isPlain_intercalate (hseparator : isPlain separator = true)
    (hparts : ∀ part ∈ parts, isPlain part = true) :
    isPlain (separator.intercalate parts) = true := by
  induction parts with
  | nil => rfl
  | cons first rest ih =>
    obtain ⟨hfirst, hrest⟩ := List.forall_mem_cons.1 hparts
    cases rest with
    | nil => rwa [String.intercalate_singleton]
    | cons next others =>
      rw [String.intercalate_cons_cons]
      exact isPlain_append (isPlain_append hfirst hseparator) (ih hrest)

theorem escape_not_mem_of_isPlain (hplain : isPlain text = true) : '\x1b' ∉ text.toList := by
  intro hescape
  have hchar := List.all_eq_true.1 hplain _ hescape
  revert hchar
  decide

theorem isPlain_indentation (level : Nat) : isPlain (indentation level) = true := by
  rw [isPlain, indentation, String.toList_ofList, List.all_eq_true]
  intro c hc
  rw [List.eq_of_mem_replicate hc]
  rfl

end Text

namespace Json

open Text (isPlain isPlainChar isPlain_append)

theorem isPlain_numeral (value : Nat) : isPlain (toString value) = true := by
  have hdigits : (toString value).toList = Nat.toDigits 10 value := Nat.toList_repr
  rw [isPlain, hdigits, List.all_eq_true]
  intro c hc
  have hdigit := Nat.isDigit_of_mem_toDigits (by decide) (by decide) hc
  rw [Char.isDigit, Bool.and_eq_true, decide_eq_true_eq] at hdigit
  have hspace : 0x20 ≤ c.toNat := Nat.le_trans (by decide) hdigit.1
  rw [isPlainChar, decide_eq_true hspace, Bool.or_true]

theorem isPlainChar_hexDigit (value : Nat) : isPlainChar (hexDigit value) = true := by
  have hdigits : ∀ digit < 16, isPlainChar (Nat.digitChar digit) = true := by decide
  exact hdigits _ (Nat.mod_lt _ (by decide))

/-- Control characters are written by characters that are none. -/
theorem all_escapeChar (c : Char) : (escapeChar c).all isPlainChar = true := by
  rw [escapeChar]
  split_ifs with _ _ _ _ _ _ _ hcontrol
  -- What is left after the fixed escapes is a code, or the character itself.
  any_goals rfl
  · simp only [List.all_cons, isPlainChar_hexDigit, List.all_nil, Bool.and_true]
    rfl
  · have hspace := Nat.le_of_not_lt hcontrol
    rw [List.all_cons, isPlainChar, decide_eq_true hspace, Bool.or_true]
    rfl

theorem isPlain_quote (text : String) : isPlain (quote text) = true := by
  have hbody : isPlain (String.ofList (text.toList.flatMap escapeChar)) = true := by
    rw [isPlain, String.toList_ofList, List.all_flatMap, List.all_eq_true]
    exact fun c _ => all_escapeChar c
  exact isPlain_append (isPlain_append rfl hbody) rfl

theorem isPlain_block {members : List String} {opening closing : String} (level : Nat)
    (hopening : isPlain opening = true) (hclosing : isPlain closing = true)
    (hmembers : ∀ written ∈ members, isPlain written = true) :
    isPlain (block level opening closing members) = true := by
  have hlines : ∀ line ∈ members.map (Text.indentation (level + 1) ++ ·),
      isPlain line = true := by
    intro line hline
    obtain ⟨written, hwritten, rfl⟩ := List.mem_map.1 hline
    exact isPlain_append (Text.isPlain_indentation _) (hmembers written hwritten)
  rw [block]
  split_ifs
  · exact isPlain_append hopening hclosing
  · have hfeed : isPlain "\n" = true := rfl
    have hcomma : isPlain ",\n" = true := rfl
    have hbody := isPlain_append (isPlain_append hopening hfeed)
      (Text.isPlain_intercalate hcomma hlines)
    have hmargin := isPlain_append (isPlain_append hbody hfeed) (Text.isPlain_indentation level)
    exact isPlain_append hmargin hclosing

mutual

theorem isPlain_prettyAt (level : Nat) (value : Json) :
    isPlain (value.prettyAt level) = true := by
  match value with
  | .null =>
    rw [prettyAt]
    rfl
  | .bool value =>
    rw [prettyAt]
    cases value <;> rfl
  | .num value =>
    rw [prettyAt]
    exact isPlain_numeral value
  | .str value =>
    rw [prettyAt]
    exact isPlain_quote value
  | .arr items =>
    rw [prettyAt]
    exact isPlain_block level rfl rfl (isPlain_prettyItems (level + 1) items)
  | .obj fields =>
    rw [prettyAt]
    exact isPlain_block level rfl rfl (isPlain_prettyFields (level + 1) fields)

theorem isPlain_prettyItems (level : Nat) (items : List Json) :
    ∀ written ∈ prettyItems level items, isPlain written = true := by
  match items with
  | [] =>
    rw [prettyItems]
    exact fun _ hwritten => nomatch hwritten
  | item :: rest =>
    rw [prettyItems]
    exact List.forall_mem_cons.2 ⟨isPlain_prettyAt level item, isPlain_prettyItems level rest⟩

theorem isPlain_prettyFields (level : Nat) (fields : List (String × Json)) :
    ∀ written ∈ prettyFields level fields, isPlain written = true := by
  match fields with
  | [] =>
    rw [prettyFields]
    exact fun _ hwritten => nomatch hwritten
  | (name, value) :: rest =>
    have hcolon : isPlain ": " = true := rfl
    have hfield := isPlain_append (isPlain_append (isPlain_quote name) hcolon)
      (isPlain_prettyAt level value)
    rw [prettyFields]
    exact List.forall_mem_cons.2 ⟨hfield, isPlain_prettyFields level rest⟩

end

theorem isPlain_pretty (value : Json) : isPlain value.pretty = true :=
  isPlain_prettyAt 0 value

end Json

end FilterQuery

import FilterQuery.Text.Lines
import Mathlib.Data.Set.Function

/-!
# Indented texts

An outline is written with one label a line. What is below a label is one level deeper, what is next
to it is at its level. Brackets are not needed: where the labels below a label end is seen from the
margins of the lines, so the text has the whole outline in it.
-/

namespace FilterQuery.Text

/-- Labels in levels. -/
inductive Outline where
  | nil
  | node (label : String) (below next : Outline)

/-- A label that can be told from its indentation and keeps to its line. -/
structure IsLabel (label : String) : Prop where
  on_one_line : '\n' ∉ label.toList
  not_indented : label.toList.head? ≠ some ' '

instance (label : String) : Decidable (IsLabel label) :=
  decidable_of_iff ('\n' ∉ label.toList ∧ label.toList.head? ≠ some ' ')
    ⟨fun h => ⟨h.1, h.2⟩, fun h => ⟨h.on_one_line, h.not_indented⟩⟩

/-- How many blanks a line starts with. -/
def margin (line : String) : Nat :=
  (line.toList.takeWhile (· == ' ')).length

theorem margin_indentation_append {label : String} (hlabel : IsLabel label) (level : Nat) :
    margin (indentation level ++ label) = 2 * level := by
  have hblanks : ∀ c ∈ List.replicate (2 * level) ' ', (c == ' ') = true := by
    simp
  rw [margin, indentation, String.toList_append, String.toList_ofList,
    List.takeWhile_append_of_pos hblanks, List.length_append, List.length_replicate]
  cases hchars : label.toList with
  | nil => simp
  | cons c rest =>
    have hc : c ≠ ' ' := by simpa [hchars] using hlabel.not_indented
    simp [hc]

theorem IsLabel.not_mem_line {label : String} (hlabel : IsLabel label) (level : Nat) :
    '\n' ∉ (indentation level ++ label).toList := by
  simp [indentation, hlabel.on_one_line]

namespace Outline

/-- One label a line, those of the outline itself at a level. -/
def lines (level : Nat) : Outline → List String
  | .nil => []
  | .node label below next =>
    (indentation level ++ label) :: (below.lines (level + 1) ++ next.lines level)

/-- Every label can be told from its indentation. -/
inductive Labelled : Outline → Prop
  | nil : Labelled .nil
  | node {label : String} {below next : Outline} (hlabel : IsLabel label)
      (hbelow : below.Labelled) (hnext : next.Labelled) : Labelled (.node label below next)

variable {outline left right : Outline} {level : Nat} {after others : List String}

theorem not_mem_of_mem_lines (hlabelled : outline.Labelled) :
    ∀ line ∈ outline.lines level, '\n' ∉ line.toList := by
  induction hlabelled generalizing level with
  | nil => simp [lines]
  | node hlabel _ _ ihbelow ihnext =>
    rw [lines, List.forall_mem_cons, List.forall_mem_append]
    exact ⟨hlabel.not_mem_line level, ihbelow, ihnext⟩

/-- The next line, if there is one, has a smaller margin than the lines of a level. -/
def EndsLevel (level : Nat) (after : List String) : Prop :=
  ∀ line ∈ after.head?, margin line < 2 * level

theorem EndsLevel.lines_append (hlabelled : outline.Labelled) (hafter : EndsLevel level after) :
    EndsLevel (level + 1) (outline.lines level ++ after) := by
  intro line hline
  cases hlabelled with
  | nil =>
    have hmargin := hafter line hline
    omega
  | node hlabel _ _ =>
    cases hline
    rw [margin_indentation_append hlabel]
    omega

theorem EndsLevel.ne_cons {label : String} (hlabel : IsLabel label)
    (hafter : EndsLevel level after) (rest : List String) :
    after ≠ (indentation level ++ label) :: rest := by
  intro heq
  have hmargin := hafter (indentation level ++ label) (by simp [heq])
  rw [margin_indentation_append hlabel] at hmargin
  omega

/-- The lines of an outline tell the outline and where it ends among further lines. -/
theorem lines_append_injective (hleft : left.Labelled) (hright : right.Labelled)
    (hafter : EndsLevel level after) (hothers : EndsLevel level others)
    (heq : left.lines level ++ after = right.lines level ++ others) :
    left = right ∧ after = others := by
  induction hleft generalizing right level after others with
  | nil =>
    cases hright with
    | nil => exact ⟨rfl, heq⟩
    | node hlabel _ _ => exact absurd heq (hafter.ne_cons hlabel _)
  | @node label below next hlabel hbelow hnext ihbelow ihnext =>
    cases hright with
    | nil => exact absurd heq.symm (hothers.ne_cons hlabel _)
    | @node other otherBelow otherNext hother hotherBelow hotherNext =>
      rw [lines, lines, List.cons_append, List.cons_append, List.append_assoc,
        List.append_assoc] at heq
      obtain ⟨hline, hrest⟩ := List.cons.inj heq
      -- what is next to a label ends the level below it, whatever comes after the outline
      obtain ⟨rfl, hnexts⟩ := ihbelow hotherBelow (hafter.lines_append hnext)
        (hothers.lines_append hotherNext) hrest
      obtain ⟨rfl, htails⟩ := ihnext hotherNext hafter hothers hnexts
      have hlabels : label = other := by simpa using hline
      exact ⟨by rw [hlabels], htails⟩

/-- The text of an outline has the whole outline in it. -/
theorem unlines_lines_injOn : Set.InjOn (fun outline => unlines (lines level outline))
    {outline | outline.Labelled} := by
  intro left hleft right hright htext
  have hlines : left.lines level = right.lines level :=
    unlines_injective (not_mem_of_mem_lines hleft) (not_mem_of_mem_lines hright) htext
  have hends : EndsLevel level [] := by
    simp [EndsLevel]
  exact (lines_append_injective hleft hright hends hends (by simpa using hlines)).1

end Outline

end FilterQuery.Text

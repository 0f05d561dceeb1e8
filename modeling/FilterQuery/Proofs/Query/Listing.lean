import FilterQuery.Proofs.Query.Canonical
import FilterQuery.Proofs.Text.Outline
import FilterQuery.Text.Split

/-!
# Listings of trees

The listing of a tree is an outline, with the operands of a node below it. No two trees have the
same outline, as long as no key has a colon in it, so the listing of a tree that was read from a
query tells the tree.
-/

namespace FilterQuery

open Text (Outline IsLabel)

theorem not_mem_of_all {allowed : Char → Bool} {chars : List Char}
    (hchars : chars.all allowed = true) {c : Char} (hc : allowed c = false) : c ∉ chars := by
  intro hmem
  rw [List.all_eq_true.1 hchars c hmem] at hc
  cases hc

theorem not_mem_of_isKeyShaped {name : String} (hname : isKeyShaped name = true) {c : Char}
    (hc : isKeyChar c = false) : c ∉ name.toList := by
  rw [isKeyShaped, Bool.and_eq_true, Bool.and_eq_true] at hname
  exact not_mem_of_all hname.1.2 hc

theorem not_mem_of_isValueShaped {text : String} (htext : isValueShaped text = true) {c : Char}
    (hc : isWordChar c = false) : c ∉ text.toList := by
  rw [isValueShaped, Bool.and_eq_true, Bool.and_eq_true] at htext
  exact not_mem_of_all htext.1.2 hc

/-! ## Trees as outlines -/

/-- What the line of a leaf shows. -/
def Term.leafLabel (key value : String) : String :=
  "Leaf(" ++ key ++ ":" ++ value ++ ")"

mutual

/-- A term as an outline, with the terms after it next to it. -/
def Term.outline (next : Outline) : Term → Outline
  | .leaf key value => .node (Term.leafLabel key value) .nil next
  | .group inner => .node "Group" (.node "Or" inner.outline .nil) next

def Conjunction.outline : Conjunction → Outline
  | .one term => term.outline .nil
  | .and term rest => term.outline rest.outline

def Disjunction.outline : Disjunction → Outline
  | .one operand => .node "And" operand.outline .nil
  | .or operand rest => .node "And" operand.outline rest.outline

end

mutual

theorem Term.lines_outline (term : Term) (next : Outline) (level : Nat) :
    (term.outline next).lines level = term.listingLines level ++ next.lines level := by
  match term with
  | .leaf key value =>
    simp [Term.outline, Outline.lines, Term.listingLines, Term.leafLabel, String.append_assoc]
  | .group inner =>
    simp [Term.outline, Outline.lines, Term.listingLines, Disjunction.lines_outline inner]

theorem Conjunction.lines_outline (conjunction : Conjunction) (level : Nat) :
    conjunction.outline.lines level = conjunction.operandLines level := by
  match conjunction with
  | .one term =>
    simp [Conjunction.outline, Outline.lines, Conjunction.operandLines, Term.lines_outline term]
  | .and term rest =>
    simp [Conjunction.outline, Conjunction.operandLines, Term.lines_outline term,
      Conjunction.lines_outline rest]

theorem Disjunction.lines_outline (tree : Disjunction) (level : Nat) :
    tree.outline.lines level = tree.operandLines level := by
  match tree with
  | .one operand =>
    simp [Disjunction.outline, Outline.lines, Disjunction.operandLines,
      Conjunction.lines_outline operand]
  | .or operand rest =>
    simp [Disjunction.outline, Outline.lines, Disjunction.operandLines,
      Conjunction.lines_outline operand, Disjunction.lines_outline rest]

end

theorem Disjunction.listing_eq_unlines (tree : Disjunction) :
    tree.listing = Text.unlines (Outline.lines 0 (.node "Or" tree.outline .nil)) := by
  simp [listing, listingLines, Outline.lines, lines_outline, Text.indentation]

/-! ## Labels of trees -/

theorem isLabel_leafLabel {key value : String} (hleaf : LeafShaped (key, value)) :
    IsLabel (Term.leafLabel key value) where
  on_one_line := by
    have hkey : '\n' ∉ key.toList := not_mem_of_isKeyShaped hleaf.1 (by decide)
    have hvalue : '\n' ∉ value.toList := not_mem_of_isValueShaped hleaf.2 (by decide)
    simp [Term.leafLabel, hkey, hvalue]
  not_indented := by
    simp [Term.leafLabel]

mutual

theorem Term.labelled_outline {term : Term} (hleaves : ∀ leaf ∈ term.leaves, LeafShaped leaf)
    {next : Outline} (hnext : next.Labelled) : (term.outline next).Labelled := by
  match term with
  | .leaf key value =>
    exact .node (isLabel_leafLabel (hleaves _ List.mem_cons_self)) .nil hnext
  | .group inner =>
    have hinner := Disjunction.labelled_outline hleaves
    exact .node (by decide) (.node (by decide) hinner .nil) hnext

theorem Conjunction.labelled_outline {conjunction : Conjunction}
    (hleaves : ∀ leaf ∈ conjunction.leaves, LeafShaped leaf) : conjunction.outline.Labelled := by
  match conjunction with
  | .one term => exact Term.labelled_outline hleaves .nil
  | .and term rest =>
    rw [Conjunction.leaves, List.forall_mem_append] at hleaves
    exact Term.labelled_outline hleaves.1 (Conjunction.labelled_outline hleaves.2)

theorem Disjunction.labelled_outline {tree : Disjunction}
    (hleaves : ∀ leaf ∈ tree.leaves, LeafShaped leaf) : tree.outline.Labelled := by
  match tree with
  | .one operand => exact .node (by decide) (Conjunction.labelled_outline hleaves) .nil
  | .or operand rest =>
    rw [Disjunction.leaves, List.forall_mem_append] at hleaves
    exact .node (by decide) (Conjunction.labelled_outline hleaves.1)
      (Disjunction.labelled_outline hleaves.2)

end

/-! ## Outlines tell trees -/

/-- The key of a leaf ends at the first colon. -/
theorem leafLabel_injective {key value otherKey otherValue : String}
    (hleaf : LeafShaped (key, value)) (hother : LeafShaped (otherKey, otherValue))
    (heq : Term.leafLabel key value = Term.leafLabel otherKey otherValue) :
    Term.leaf key value = Term.leaf otherKey otherValue := by
  have hchars : key.toList ++ ':' :: (value.toList ++ [')']) =
      otherKey.toList ++ ':' :: (otherValue.toList ++ [')']) := by
    simpa [Term.leafLabel] using congrArg String.toList heq
  have hkey : ':' ∉ key.toList := not_mem_of_isKeyShaped hleaf.1 (by decide)
  have hotherKey : ':' ∉ otherKey.toList := not_mem_of_isKeyShaped hother.1 (by decide)
  have hcut := Text.append_cons_inj_of_not_mem_left hkey hotherKey hchars
  rw [String.toList_inj.1 hcut.1, String.toList_inj.1 (List.append_cancel_right hcut.2)]

theorem leafLabel_ne_group (key value : String) : Term.leafLabel key value ≠ "Group" := by
  intro heq
  simpa [Term.leafLabel] using congrArg String.toList heq

theorem Term.outline_ne_nil (term : Term) (next : Outline) : term.outline next ≠ .nil := by
  cases term <;> simp [Term.outline]

theorem Conjunction.outline_ne_nil (conjunction : Conjunction) : conjunction.outline ≠ .nil := by
  cases conjunction <;> exact Term.outline_ne_nil _ _

theorem Disjunction.outline_ne_nil (tree : Disjunction) : tree.outline ≠ .nil := by
  cases tree <;> simp [Disjunction.outline]

mutual

theorem Term.outline_injective {term other : Term} {next otherNext : Outline}
    (hleaves : ∀ leaf ∈ term.leaves, LeafShaped leaf)
    (hothers : ∀ leaf ∈ other.leaves, LeafShaped leaf)
    (heq : term.outline next = other.outline otherNext) : term = other ∧ next = otherNext := by
  match term, other with
  | .leaf key value, .leaf otherKey otherValue =>
    injection heq with hlabel _ hnext
    exact ⟨leafLabel_injective (hleaves _ List.mem_cons_self) (hothers _ List.mem_cons_self) hlabel,
      hnext⟩
  | .group inner, .group otherInner =>
    injection heq with _ hbelow hnext
    injection hbelow with _ hinner
    exact ⟨by rw [Disjunction.outline_injective hleaves hothers hinner], hnext⟩
  | .leaf key value, .group _ =>
    injection heq with hlabel
    exact absurd hlabel (leafLabel_ne_group key value)
  | .group _, .leaf key value =>
    injection heq with hlabel
    exact absurd hlabel.symm (leafLabel_ne_group key value)

theorem Conjunction.outline_injective {conjunction other : Conjunction}
    (hleaves : ∀ leaf ∈ conjunction.leaves, LeafShaped leaf)
    (hothers : ∀ leaf ∈ other.leaves, LeafShaped leaf)
    (heq : conjunction.outline = other.outline) : conjunction = other := by
  match conjunction, other with
  | .one term, .one otherTerm =>
    rw [(Term.outline_injective hleaves hothers heq).1]
  | .and term rest, .and otherTerm otherRest =>
    rw [Conjunction.leaves, List.forall_mem_append] at hleaves hothers
    obtain ⟨rfl, hrest⟩ := Term.outline_injective hleaves.1 hothers.1 heq
    rw [Conjunction.outline_injective hleaves.2 hothers.2 hrest]
  | .one term, .and otherTerm otherRest =>
    rw [Conjunction.leaves, List.forall_mem_append] at hothers
    have hrest := (Term.outline_injective hleaves hothers.1 heq).2
    exact absurd hrest.symm otherRest.outline_ne_nil
  | .and term rest, .one otherTerm =>
    rw [Conjunction.leaves, List.forall_mem_append] at hleaves
    have hrest := (Term.outline_injective hleaves.1 hothers heq).2
    exact absurd hrest rest.outline_ne_nil

theorem Disjunction.outline_injective {tree other : Disjunction}
    (hleaves : ∀ leaf ∈ tree.leaves, LeafShaped leaf)
    (hothers : ∀ leaf ∈ other.leaves, LeafShaped leaf)
    (heq : tree.outline = other.outline) : tree = other := by
  match tree, other with
  | .one operand, .one otherOperand =>
    injection heq with _ hoperand
    rw [Conjunction.outline_injective hleaves hothers hoperand]
  | .or operand rest, .or otherOperand otherRest =>
    rw [Disjunction.leaves, List.forall_mem_append] at hleaves hothers
    injection heq with _ hoperand hrest
    rw [Conjunction.outline_injective hleaves.1 hothers.1 hoperand,
      Disjunction.outline_injective hleaves.2 hothers.2 hrest]
  | .one operand, .or otherOperand otherRest =>
    injection heq with _ _ hrest
    exact absurd hrest.symm otherRest.outline_ne_nil
  | .or operand rest, .one otherOperand =>
    injection heq with _ _ hrest
    exact absurd hrest rest.outline_ne_nil

end

theorem Disjunction.listing_injOn :
    Set.InjOn listing {tree | ∀ leaf ∈ tree.leaves, LeafShaped leaf} := by
  intro tree hleaves other hothers hlisting
  rw [listing_eq_unlines, listing_eq_unlines] at hlisting
  have houtline := Text.Outline.unlines_lines_injOn
    (.node (by decide) (labelled_outline hleaves) .nil)
    (.node (by decide) (labelled_outline hothers) .nil) hlisting
  injection houtline with _ hbelow
  exact outline_injective hleaves hothers hbelow

end FilterQuery

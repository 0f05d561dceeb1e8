import FilterQuery.Query.Tree

/-!
# Redundant parentheses

Parentheses are redundant around a single term, around the only term of a conjunction and around the
only term of a whole disjunction. Trees that differ in redundant parentheses alone are equivalent.
What stands in the redundant parentheses around a tree decides what it is equivalent to.
-/

namespace FilterQuery

mutual

/-- Terms that differ in redundant parentheses alone. -/
inductive Term.Equivalent : Term → Term → Prop
  | refl (term : Term) : Term.Equivalent term term
  | symm {left right : Term} (h : Term.Equivalent left right) : Term.Equivalent right left
  | trans {left middle right : Term} (hleft : Term.Equivalent left middle)
      (hright : Term.Equivalent middle right) : Term.Equivalent left right
  | parentheses (term : Term) : Term.Equivalent (.group (.one (.one term))) term
  | group {left right : Disjunction} (hinner : Disjunction.Equivalent left right) :
      Term.Equivalent (.group left) (.group right)

/-- Conjunctions that differ in redundant parentheses alone. -/
inductive Conjunction.Equivalent : Conjunction → Conjunction → Prop
  | refl (conjunction : Conjunction) : Conjunction.Equivalent conjunction conjunction
  | symm {left right : Conjunction} (h : Conjunction.Equivalent left right) :
      Conjunction.Equivalent right left
  | trans {left middle right : Conjunction} (hleft : Conjunction.Equivalent left middle)
      (hright : Conjunction.Equivalent middle right) : Conjunction.Equivalent left right
  | parentheses (conjunction : Conjunction) :
      Conjunction.Equivalent (.one (.group (.one conjunction))) conjunction
  | operand {left right : Conjunction} {before after : List Term} {term other : Term}
      (hterm : Term.Equivalent term other) (hleft : left.operands = before ++ term :: after)
      (hright : right.operands = before ++ other :: after) : Conjunction.Equivalent left right

/-- Disjunctions that differ in redundant parentheses alone. -/
inductive Disjunction.Equivalent : Disjunction → Disjunction → Prop
  | refl (tree : Disjunction) : Disjunction.Equivalent tree tree
  | symm {left right : Disjunction} (h : Disjunction.Equivalent left right) :
      Disjunction.Equivalent right left
  | trans {left middle right : Disjunction} (hleft : Disjunction.Equivalent left middle)
      (hright : Disjunction.Equivalent middle right) : Disjunction.Equivalent left right
  | parentheses (tree : Disjunction) : Disjunction.Equivalent (.one (.one (.group tree))) tree
  | operand {left right : Disjunction} {before after : List Conjunction}
      {operand other : Conjunction} (hoperand : Conjunction.Equivalent operand other)
      (hleft : left.operands = before ++ operand :: after)
      (hright : right.operands = before ++ other :: after) : Disjunction.Equivalent left right

end

/-! ## Operands -/

theorem Conjunction.operands_injective {left right : Conjunction}
    (hoperands : left.operands = right.operands) : left = right := by
  have hboth := congrArg ofOperands? hoperands
  simpa only [ofOperands?_operands, Option.some.injEq] using hboth

theorem Disjunction.operands_injective {left right : Disjunction}
    (hoperands : left.operands = right.operands) : left = right := by
  have hboth := congrArg ofOperands? hoperands
  simpa only [ofOperands?_operands, Option.some.injEq] using hboth

theorem Conjunction.exists_operands_eq_cons (term : Term) (terms : List Term) :
    ∃ conjunction : Conjunction, conjunction.operands = term :: terms := by
  induction terms generalizing term with
  | nil => exact ⟨.one term, rfl⟩
  | cons next rest ih =>
    obtain ⟨conjunction, hoperands⟩ := ih next
    exact ⟨.and term conjunction, congrArg (term :: ·) hoperands⟩

theorem Disjunction.exists_operands_eq_cons (operand : Conjunction) (rest : List Conjunction) :
    ∃ tree : Disjunction, tree.operands = operand :: rest := by
  induction rest generalizing operand with
  | nil => exact ⟨.one operand, rfl⟩
  | cons next rest ih =>
    obtain ⟨tree, hoperands⟩ := ih next
    exact ⟨.or operand tree, congrArg (operand :: ·) hoperands⟩

theorem Conjunction.leaves_subset {conjunction : Conjunction} {term : Term}
    (hterm : term ∈ conjunction.operands) : term.leaves ⊆ conjunction.leaves := by
  match conjunction with
  | .one only =>
    rw [operands, List.mem_singleton] at hterm
    rw [hterm, leaves]
    exact List.Subset.refl _
  | .and first rest =>
    rw [operands, List.mem_cons] at hterm
    rw [leaves]
    rcases hterm with rfl | hrest
    · exact List.subset_append_left _ _
    · exact List.subset_append_of_subset_right _ (leaves_subset hrest)

theorem Disjunction.leaves_subset {tree : Disjunction} {operand : Conjunction}
    (hoperand : operand ∈ tree.operands) : operand.leaves ⊆ tree.leaves := by
  match tree with
  | .one only =>
    rw [operands, List.mem_singleton] at hoperand
    rw [hoperand, leaves]
    exact List.Subset.refl _
  | .or first rest =>
    rw [operands, List.mem_cons] at hoperand
    rw [leaves]
    rcases hoperand with rfl | hrest
    · exact List.subset_append_left _ _
    · exact List.subset_append_of_subset_right _ (leaves_subset hrest)

/-- Nodes are related if their operands are one by one, given that replacing one operand gives a
related node. Nodes are told apart by their operands, which can be any but none. -/
theorem related_of_operands {Node Operand Outcome : Type} {operands : Node → List Operand}
    {same : Operand → Operand → Prop} {related : Node → Node → Prop} {outcome : Operand → Outcome}
    (hinjective : ∀ {left right}, operands left = operands right → left = right)
    (hexists : ∀ operand rest, ∃ node, operands node = operand :: rest)
    (hrefl : ∀ node, related node node)
    (htrans : ∀ {left middle right}, related left middle → related middle right →
      related left right)
    (hreplace : ∀ {left right before after operand other}, same operand other →
      operands left = before ++ operand :: after → operands right = before ++ other :: after →
        related left right)
    {left right : Node} (houtcomes : (operands left).map outcome = (operands right).map outcome)
    (hsame : ∀ operand ∈ operands left, ∀ other ∈ operands right,
      outcome operand = outcome other → same operand other) :
    related left right := by
  -- Replace the operands from the left to the right; those before are the same already.
  suffices hfrom : ∀ before items others (left right : Node), operands left = before ++ items →
      operands right = before ++ others → items.map outcome = others.map outcome →
        (∀ item ∈ items, ∀ other ∈ others, outcome item = outcome other → same item other) →
          related left right from
    hfrom [] _ _ left right rfl rfl houtcomes hsame
  intro before items
  induction items generalizing before with
  | nil =>
    intro others left right hleft hright hmap _
    rw [List.map_nil, eq_comm, List.map_eq_nil_iff] at hmap
    rw [hinjective (hleft.trans (hright.trans (by rw [hmap])).symm)]
    exact hrefl right
  | cons item items ih =>
    intro others left right hleft hright hmap hsame
    cases others with
    | nil => cases hmap
    | cons other others =>
      obtain ⟨hitem, hitems⟩ := List.cons.inj hmap
      have hmiddle : ∃ node, operands node = before ++ other :: items := by
        cases before with
        | nil => exact hexists other items
        | cons first before => exact hexists first (before ++ other :: items)
      obtain ⟨middle, hmiddle⟩ := hmiddle
      refine htrans (hreplace (hsame item ?_ other ?_ hitem) hleft hmiddle) ?_
      · exact List.mem_cons_self
      · exact List.mem_cons_self
      · refine ih (before ++ [other]) others middle right (by simp [hmiddle]) (by simp [hright])
          hitems fun item hitem other hother => ?_
        exact hsame item (List.mem_cons_of_mem _ hitem) other (List.mem_cons_of_mem _ hother)

theorem Conjunction.equivalent_of_operands {Outcome : Type} {outcome : Term → Outcome}
    {left right : Conjunction}
    (houtcomes : left.operands.map outcome = right.operands.map outcome)
    (hsame : ∀ term ∈ left.operands, ∀ other ∈ right.operands,
      outcome term = outcome other → term.Equivalent other) : left.Equivalent right :=
  related_of_operands operands_injective exists_operands_eq_cons .refl .trans .operand houtcomes
    hsame

theorem Disjunction.equivalent_of_operands {Outcome : Type} {outcome : Conjunction → Outcome}
    {left right : Disjunction}
    (houtcomes : left.operands.map outcome = right.operands.map outcome)
    (hsame : ∀ operand ∈ left.operands, ∀ other ∈ right.operands,
      outcome operand = outcome other → operand.Equivalent other) : left.Equivalent right :=
  related_of_operands operands_injective exists_operands_eq_cons .refl .trans .operand houtcomes
    hsame

/-! ## Trees without redundant parentheses around them -/

/-- What stands in all the redundant parentheses around a tree: a leaf, or several operands. -/
inductive Bare where
  | leaf (key value : String)
  | conjunction (terms : Conjunction)
  | disjunction (operands : Disjunction)

mutual

def Term.bare : Term → Bare
  | .leaf key value => .leaf key value
  | .group inner => inner.bare

def Conjunction.bare : Conjunction → Bare
  | .one term => term.bare
  | .and term rest => .conjunction (.and term rest)

def Disjunction.bare : Disjunction → Bare
  | .one operand => operand.bare
  | .or operand rest => .disjunction (.or operand rest)

end

namespace Bare

/-- The term with no more parentheses than it needs. -/
def asTerm : Bare → Term
  | .leaf key value => .leaf key value
  | .conjunction terms => .group (.one terms)
  | .disjunction operands => .group operands

def asConjunction : Bare → Conjunction
  | .leaf key value => .one (.leaf key value)
  | .conjunction terms => terms
  | .disjunction operands => .one (.group operands)

def asDisjunction : Bare → Disjunction
  | .leaf key value => .one (.one (.leaf key value))
  | .conjunction terms => .one terms
  | .disjunction operands => operands

def leaves : Bare → List (String × String)
  | .leaf key value => [(key, value)]
  | .conjunction terms => terms.leaves
  | .disjunction operands => operands.leaves

theorem group_asDisjunction (bare : Bare) :
    Term.Equivalent (.group bare.asDisjunction) bare.asTerm := by
  cases bare with
  | leaf key value => exact .parentheses _
  | conjunction terms => exact .refl _
  | disjunction operands => exact .refl _

theorem one_asTerm (bare : Bare) :
    Conjunction.Equivalent (.one bare.asTerm) bare.asConjunction := by
  cases bare with
  | leaf key value => exact .refl _
  | conjunction terms => exact .parentheses _
  | disjunction operands => exact .refl _

theorem one_asConjunction (bare : Bare) :
    Disjunction.Equivalent (.one bare.asConjunction) bare.asDisjunction := by
  cases bare with
  | leaf key value => exact .refl _
  | conjunction terms => exact .refl _
  | disjunction operands => exact .parentheses _

end Bare

mutual

theorem Term.equivalent_bare (term : Term) : term.Equivalent term.bare.asTerm := by
  match term with
  | .leaf key value => exact .refl _
  | .group inner =>
    exact .trans (.group (Disjunction.equivalent_bare inner)) inner.bare.group_asDisjunction

theorem Conjunction.equivalent_bare (conjunction : Conjunction) :
    conjunction.Equivalent conjunction.bare.asConjunction := by
  match conjunction with
  | .one term =>
    have hone : Conjunction.Equivalent (.one term) (.one term.bare.asTerm) :=
      .operand (Term.equivalent_bare term) (List.nil_append _).symm (List.nil_append _).symm
    exact .trans hone term.bare.one_asTerm
  | .and term rest => exact .refl _

theorem Disjunction.equivalent_bare (tree : Disjunction) :
    tree.Equivalent tree.bare.asDisjunction := by
  match tree with
  | .one operand =>
    have hone : Disjunction.Equivalent (.one operand) (.one operand.bare.asConjunction) :=
      .operand (Conjunction.equivalent_bare operand) (List.nil_append _).symm
        (List.nil_append _).symm
    exact .trans hone operand.bare.one_asConjunction
  | .or operand rest => exact .refl _

end

mutual

theorem Term.leaves_bare (term : Term) : term.bare.leaves = term.leaves := by
  match term with
  | .leaf key value => rfl
  | .group inner => exact Disjunction.leaves_bare inner

theorem Conjunction.leaves_bare (conjunction : Conjunction) :
    conjunction.bare.leaves = conjunction.leaves := by
  match conjunction with
  | .one term => exact Term.leaves_bare term
  | .and term rest => rfl

theorem Disjunction.leaves_bare (tree : Disjunction) : tree.bare.leaves = tree.leaves := by
  match tree with
  | .one operand => exact Conjunction.leaves_bare operand
  | .or operand rest => rfl

end

namespace Bare

/-- What stands in redundant parentheses is the same but for redundant parentheses further in. -/
inductive Equivalent : Bare → Bare → Prop
  | leaf (key value : String) : Equivalent (.leaf key value) (.leaf key value)
  | conjunction {left right : Conjunction} (hterms : left.Equivalent right) :
      Equivalent (.conjunction left) (.conjunction right)
  | disjunction {left right : Disjunction} (hoperands : left.Equivalent right) :
      Equivalent (.disjunction left) (.disjunction right)

theorem Equivalent.asDisjunction {left right : Bare} (h : left.Equivalent right) :
    left.asDisjunction.Equivalent right.asDisjunction := by
  cases h with
  | leaf key value => exact .refl _
  | conjunction hterms => exact .operand hterms (List.nil_append _).symm (List.nil_append _).symm
  | disjunction hoperands => exact hoperands

theorem Equivalent.asConjunction {left right : Bare} (h : left.Equivalent right) :
    left.asConjunction.Equivalent right.asConjunction := by
  cases h with
  | leaf key value => exact .refl _
  | conjunction hterms => exact hterms
  | disjunction hoperands =>
    exact .operand (.group hoperands) (List.nil_append _).symm (List.nil_append _).symm

theorem Equivalent.asTerm {left right : Bare} (h : left.Equivalent right) :
    left.asTerm.Equivalent right.asTerm := by
  have hgroups := Term.Equivalent.group h.asDisjunction
  exact .trans left.group_asDisjunction.symm (.trans hgroups right.group_asDisjunction)

end Bare

theorem Term.equivalent_of_bare {left right : Term} (h : left.bare.Equivalent right.bare) :
    left.Equivalent right :=
  .trans left.equivalent_bare (.trans h.asTerm right.equivalent_bare.symm)

theorem Conjunction.equivalent_of_bare {left right : Conjunction}
    (h : left.bare.Equivalent right.bare) : left.Equivalent right :=
  .trans left.equivalent_bare (.trans h.asConjunction right.equivalent_bare.symm)

theorem Disjunction.equivalent_of_bare {left right : Disjunction}
    (h : left.bare.Equivalent right.bare) : left.Equivalent right :=
  .trans left.equivalent_bare (.trans h.asDisjunction right.equivalent_bare.symm)

end FilterQuery

import FilterQuery.Proofs.Query.Descent

/-!
# More room

The room decides only whether a descent has an outcome. One that comes to an end comes to the same
end with more room.
-/

namespace FilterQuery.Descent

/-- If the first act comes to an end, the other one comes to the same end. -/
def EndsAs {α : Type} (act other : Act α) : Prop :=
  ∀ ⦃progress : Progress⦄ ⦃ending : Except Fault α × Progress⦄,
    act.run.run progress = some ending → other.run.run progress = some ending

namespace EndsAs

variable {α β : Type} {act other : Act α} {rest otherRest : α → Act β}

theorem refl (act : Act α) : EndsAs act act :=
  fun _ _ hrun => hrun

theorem of_noRoom (other : Act α) : EndsAs noRoom other :=
  fun _ _ hrun => nomatch hrun

theorem bind (hact : EndsAs act other) (hrest : ∀ value, EndsAs (rest value) (otherRest value)) :
    EndsAs (act >>= rest) (other >>= otherRest) := by
  intro progress last hlast
  obtain ⟨result, next, hrun, hrestRun⟩ := run_bind_eq_some_iff.1 hlast
  refine run_bind_eq_some_iff.2 ⟨result, next, hact hrun, ?_⟩
  cases result with
  | ok value => exact hrest value hrestRun
  | error fault => exact hrestRun

theorem after (act : Act α) (hrest : ∀ value, EndsAs (rest value) (otherRest value)) :
    EndsAs (act >>= rest) (act >>= otherRest) :=
  bind (refl act) hrest

end EndsAs

/-- Calls that come to an end with so much room come to the same end with more. -/
structure Settled (descent : Descent) (room : Nat) : Prop where
  disjunction (nested : Nat) :
    EndsAs (descent.disjunction room nested) (descent.disjunction (room + 1) nested)
  moreConjunctions (nested : Nat) (tree : Disjunction) :
    EndsAs (descent.moreConjunctions room nested tree)
      (descent.moreConjunctions (room + 1) nested tree)
  conjunction (nested : Nat) :
    EndsAs (descent.conjunction room nested) (descent.conjunction (room + 1) nested)
  moreTerms (nested : Nat) (operand : Conjunction) :
    EndsAs (descent.moreTerms room nested operand) (descent.moreTerms (room + 1) nested operand)
  term (nested : Nat) : EndsAs (descent.term room nested) (descent.term (room + 1) nested)
  group (nested : Nat) : EndsAs (descent.group room nested) (descent.group (room + 1) nested)

theorem settled (descent : Descent) (room : Nat) : descent.Settled room := by
  induction room with
  | zero => constructor <;> intros <;> exact .of_noRoom _
  | succ room ih =>
    constructor
    case disjunction =>
      intro nested
      rw [Descent.disjunction, Descent.disjunction]
      refine .after _ fun start => .bind (ih.conjunction nested) fun first => ?_
      exact .bind (ih.moreConjunctions nested _) fun tree => .refl _
    case moreConjunctions =>
      intro nested tree
      rw [Descent.moreConjunctions, Descent.moreConjunctions]
      refine .after _ fun found => ?_
      split
      · refine .after _ fun _ => .bind (ih.conjunction nested) fun operand => ?_
        exact ih.moreConjunctions nested _
      · exact .refl _
    case conjunction =>
      intro nested
      rw [Descent.conjunction, Descent.conjunction]
      refine .after _ fun start => .bind (ih.term nested) fun first => ?_
      exact .bind (ih.moreTerms nested _) fun operand => .refl _
    case moreTerms =>
      intro nested operand
      rw [Descent.moreTerms, Descent.moreTerms]
      refine .after _ fun found => ?_
      split
      · exact .after _ fun _ => .bind (ih.term nested) fun next => ih.moreTerms nested _
      · exact .refl _
    case term =>
      intro nested
      rw [Descent.term, Descent.term]
      refine .after _ fun start => .after _ fun token => ?_
      dsimp only
      split
      · exact .bind (ih.group nested) fun found => .refl _
      · exact .refl _
      · exact .refl _
    case group =>
      intro nested
      rw [Descent.group, Descent.group]
      refine .after _ fun opening => .after _ fun _ => .after _ fun _ => .after _ fun raised => ?_
      dsimp only
      split
      · exact .refl _
      · exact .after _ fun _ => .bind (ih.disjunction (nested + 1)) fun inner => .refl _

theorem run?_add {descent : Descent} {room : Nat} {ending : Except Fault Disjunction × Progress}
    (hrun : descent.run? room = some ending) (more : Nat) :
    descent.run? (room + more) = some ending := by
  induction more with
  | zero => exact hrun
  | succ more ih =>
    have hquery : EndsAs (descent.query (room + more)) (descent.query (room + more + 1)) :=
      .bind ((descent.settled (room + more)).disjunction 0) fun tree => .refl _
    exact hquery ih

end FilterQuery.Descent

import FilterQuery.Proofs.Query.Descent

/-!
# The trace of a descent

The events of a descent fit together: they begin with the outermost call, every further one takes up
where the one before has left the cursor, each call is made by one of the kind around its own, and
calls end in the opposite order to that in which they began.
-/

namespace FilterQuery.Descent

/-- A call that is still going on, with where it began. -/
abbrev OpenCall := Node × Cursor

/-- What calls for a node call for in turn. Those for a term do so if it is a group. -/
def Node.inner : Node → Node
  | .disjunction => .conjunction
  | .conjunction => .term
  | .term => .disjunction

/-- Calls inside a call for a term are in the body of its group. -/
def groupsAround (calls : List OpenCall) : Nat :=
  (calls.map Prod.fst).count .term

/-- The events of a descent so far, the calls that are going on, the innermost first, and where the
cursor is. Every call is made by the innermost one and begins where the cursor is, every success
ends the innermost call, and every move takes the cursor from where it is. -/
inductive Traced : List Event → List OpenCall → Cursor → Prop
  | start : Traced [.call .disjunction 0 {}] [(.disjunction, {})] {}
  | call {events : List Event} {node : Node} {start : Cursor} {calls : List OpenCall}
      {cursor : Cursor} (htraced : Traced events ((node, start) :: calls) cursor) :
      Traced (events ++ [.call node.inner (groupsAround ((node, start) :: calls)) cursor])
        ((node.inner, cursor) :: (node, start) :: calls) cursor
  | success {events : List Event} {node : Node} {start : Cursor} {calls : List OpenCall}
      {cursor : Cursor} (htraced : Traced events ((node, start) :: calls) cursor) :
      Traced (events ++ [.success node start cursor]) calls cursor
  | move {events : List Event} {calls : List OpenCall} {cursor : Cursor}
      (htraced : Traced events calls cursor) (next : Cursor) :
      Traced (events ++ [.move cursor next]) calls next
  | note {events : List Event} {calls : List OpenCall} {cursor : Cursor}
      (htraced : Traced events calls cursor) (text : String) :
      Traced (events ++ [.note text]) calls cursor

/-- What has happened is a trace, with some calls going on. -/
def Progress.TracedTo (progress : Progress) (calls : List OpenCall) : Prop :=
  Traced progress.events calls progress.cursor

/-- Where an act has come to with its trace: unless it has failed, it is known which calls go on. -/
def TracedAfter {α : Type} (after : α → List OpenCall) : Except Fault α → Progress → Prop
  | .ok value, next => next.TracedTo (after value)
  | .error _, next => ∃ calls, next.TracedTo calls

/-- Begun with a trace in which some calls are going on, the act ends with a trace. -/
def Traces {α : Type} (act : Act α) (before : List OpenCall) (after : α → List OpenCall) : Prop :=
  ∀ ⦃progress next : Progress⦄ ⦃result : Except Fault α⦄, progress.TracedTo before →
    act.run.run progress = some (result, next) → TracedAfter after result next

variable {α β : Type} {before calls : List OpenCall} {middle : α → List OpenCall}
  {after : β → List OpenCall} {descent : Descent} {progress : Progress} {node : Node}
  {start : Cursor} {nested room : Nat}

theorem groupsAround_term (start : Cursor) (calls : List OpenCall) :
    groupsAround ((.term, start) :: calls) = groupsAround calls + 1 :=
  List.count_cons_self

theorem groupsAround_of_ne (hnode : node ≠ .term) (start : Cursor) (calls : List OpenCall) :
    groupsAround ((node, start) :: calls) = groupsAround calls :=
  List.count_cons_of_ne hnode

theorem Progress.TracedTo.moveTo (htraced : progress.TracedTo calls) (cursor : Cursor) :
    (progress.moveTo cursor).TracedTo calls :=
  htraced.move cursor

/-! ## Parts -/

theorem Traces.bind {act : Act α} {rest : α → Act β} (hact : Traces act before middle)
    (hrest : ∀ value, Traces (rest value) (middle value) after) :
    Traces (act >>= rest) before after := by
  intro progress last result htraced hlast
  obtain ⟨reached, next, hrun, hrestRun⟩ := run_bind_eq_some_iff.1 hlast
  have hnext := hact htraced hrun
  cases reached with
  | ok value => exact hrest value hnext hrestRun
  | error fault =>
    cases hrestRun
    exact hnext

/-- An act that only looks. -/
theorem traces_of_still {act : Act α}
    (hstill : ∀ progress, ∃ result, act.run.run progress = some (result, progress)) :
    Traces act calls fun _ => calls := by
  intro progress next result htraced hrun
  obtain ⟨other, hother⟩ := hstill progress
  rw [hother] at hrun
  cases hrun
  cases result with
  | ok value => exact htraced
  | error fault => exact ⟨calls, htraced⟩

theorem traces_pure (value : α) : Traces (pure value) calls fun _ => calls :=
  traces_of_still fun _ => ⟨.ok value, rfl⟩

theorem traces_noRoom : Traces noRoom before after :=
  fun _ _ _ _ hrun => nomatch hrun

theorem traces_modify {change : Progress → Progress}
    (hchange : ∀ progress, progress.TracedTo before → (change progress).TracedTo calls) :
    Traces (modify change) before fun _ => calls := by
  intro progress next result htraced hrun
  cases hrun
  exact hchange progress htraced

theorem traces_note (text : String) : Traces (record (.note text)) calls fun _ => calls :=
  traces_modify fun _ htraced => Traced.note htraced text

theorem traces_enter (hnested : groupsAround ((node, start) :: calls) = nested) :
    Traces (enter node.inner nested) ((node, start) :: calls) fun begun =>
      (node.inner, begun) :: (node, start) :: calls := by
  intro progress next result htraced hrun
  cases hrun
  exact hnested ▸ Traced.call htraced

theorem traces_leave : Traces (leave node start) ((node, start) :: calls) fun _ => calls := by
  intro progress next result htraced hrun
  cases hrun
  exact Traced.success htraced

theorem traces_get : Traces get calls fun _ => calls :=
  traces_of_still fun progress => ⟨.ok progress, rfl⟩

theorem traces_currentOffset : Traces descent.currentOffset calls fun _ => calls :=
  traces_of_still fun _ => ⟨.ok _, rfl⟩

theorem traces_peek : Traces descent.peek calls fun _ => calls :=
  traces_of_still fun _ => ⟨.ok _, rfl⟩

theorem traces_nextIs (kind : TokenKind) : Traces (descent.nextIs kind) calls fun _ => calls :=
  traces_of_still fun _ => ⟨.ok _, rfl⟩

/-- A fault leaves out what follows. -/
theorem traces_of_fault {act : Act α} {rest : α → Act β}
    (hfault : ∀ progress, ∃ fault, act.run.run progress = some (.error fault, progress)) :
    Traces (act >>= rest) calls after := by
  intro progress next result htraced hlast
  obtain ⟨reached, middle, hrun, hrestRun⟩ := run_bind_eq_some_iff.1 hlast
  obtain ⟨fault, hother⟩ := hfault progress
  rw [hother] at hrun
  cases hrun
  cases hrestRun
  exact ⟨calls, htraced⟩

theorem traces_unexpected (expected : String) :
    Traces (α := α) (descent.unexpected expected) calls fun _ => calls :=
  traces_of_still fun _ => ⟨.error _, rfl⟩

theorem traces_unexpected_bind (expected : String) {rest : α → Act β} :
    Traces (descent.unexpected expected >>= rest) calls after :=
  traces_of_fault fun _ => ⟨_, rfl⟩

theorem traces_advance : Traces descent.advance calls fun _ => calls := by
  refine traces_get.bind fun progress => ?_
  split
  · exact traces_modify fun _ htraced => htraced.moveTo _
  · exact traces_pure _

theorem traces_takeText : Traces descent.takeText calls fun _ => calls :=
  traces_peek.bind fun _ => traces_advance.bind fun _ => traces_pure _

theorem traces_passConnective (name : String) :
    Traces (descent.passConnective name) calls fun _ => calls :=
  traces_get.bind fun _ => (traces_note _).bind fun _ => traces_advance

theorem traces_leaf : Traces descent.leaf calls fun _ => calls := by
  refine traces_takeText.bind fun key => (traces_nextIs _).bind fun found => ?_
  split
  · refine traces_advance.bind fun _ => traces_peek.bind fun token => ?_
    split
    · exact traces_takeText.bind fun value => (traces_note _).bind fun _ => traces_pure _
    · exact traces_takeText.bind fun value => (traces_note _).bind fun _ => traces_pure _
    · exact traces_unexpected _
  · exact traces_unexpected_bind _

/-! ## Calls -/

/-- Made by a call for a node, with so many groups around, the act goes on with a trace and leaves the
same calls going on. -/
def TracesInside {α : Type} (act : Act α) (node : Node) (around : Nat) : Prop :=
  ∀ ⦃start : Cursor⦄ ⦃calls : List OpenCall⦄, groupsAround ((node, start) :: calls) = around →
    Traces act ((node, start) :: calls) fun _ => (node, start) :: calls

/-- Calls of every kind go on with a trace, each made by a call of the kind around its own. -/
structure CallsTrace (descent : Descent) (room : Nat) : Prop where
  disjunction (nested : Nat) : TracesInside (descent.disjunction room nested) .term nested
  moreConjunctions (nested : Nat) (tree : Disjunction) :
    TracesInside (descent.moreConjunctions room nested tree) .disjunction nested
  conjunction (nested : Nat) : TracesInside (descent.conjunction room nested) .disjunction nested
  moreTerms (nested : Nat) (operand : Conjunction) :
    TracesInside (descent.moreTerms room nested operand) .conjunction nested
  term (nested : Nat) : TracesInside (descent.term room nested) .conjunction nested
  /-- The call for the term that the group is counts as one around what is in it. -/
  group (nested : Nat) : TracesInside (descent.group room nested) .term (nested + 1)

namespace CallsTrace

/-- What a call for a disjunction does once it has begun. -/
theorem inside (hcalls : descent.CallsTrace room) (hnested : groupsAround calls = nested)
    (start : Cursor) :
    Traces (do
      let first ← descent.conjunction room nested
      let tree ← descent.moreConjunctions room nested (.one first)
      leave .disjunction start
      return tree) ((.disjunction, start) :: calls) fun _ => calls := by
  have hinside : groupsAround ((.disjunction, start) :: calls) = nested :=
    (groupsAround_of_ne (by decide) start calls).trans hnested
  refine (hcalls.conjunction nested hinside).bind fun first => ?_
  refine (hcalls.moreConjunctions nested _ hinside).bind fun tree => ?_
  exact traces_leave.bind fun _ => traces_pure _

theorem succ (hcalls : descent.CallsTrace room) : descent.CallsTrace (room + 1) where
  disjunction nested start calls hnested := by
    rw [Descent.disjunction]
    exact (traces_enter hnested).bind (hcalls.inside hnested)
  moreConjunctions nested tree start calls hnested := by
    rw [Descent.moreConjunctions]
    refine (traces_nextIs _).bind fun found => ?_
    split
    · refine (traces_passConnective _).bind fun _ => ?_
      refine (hcalls.conjunction nested hnested).bind fun operand => ?_
      exact hcalls.moreConjunctions nested _ hnested
    · exact traces_pure _
  conjunction nested outer calls hnested := by
    rw [Descent.conjunction]
    refine (traces_enter hnested).bind fun start => ?_
    have hinside :
        groupsAround ((.conjunction, start) :: (.disjunction, outer) :: calls) = nested :=
      (groupsAround_of_ne (by decide) start _).trans hnested
    refine (hcalls.term nested hinside).bind fun first => ?_
    refine (hcalls.moreTerms nested _ hinside).bind fun operand => ?_
    exact traces_leave.bind fun _ => traces_pure _
  moreTerms nested operand start calls hnested := by
    rw [Descent.moreTerms]
    refine (traces_nextIs _).bind fun found => ?_
    split
    · refine (traces_passConnective _).bind fun _ => ?_
      refine (hcalls.term nested hnested).bind fun next => ?_
      exact hcalls.moreTerms nested _ hnested
    · exact traces_pure _
  term nested outer calls hnested := by
    have hbody (start : Cursor) :
        groupsAround ((.term, start) :: (.conjunction, outer) :: calls) = nested + 1 :=
      (groupsAround_term start _).trans (congrArg (· + 1) hnested)
    rw [Descent.term]
    refine (traces_enter hnested).bind fun start => traces_peek.bind fun token => ?_
    dsimp only
    split
    · refine (hcalls.group nested (hbody start)).bind fun found => ?_
      exact traces_leave.bind fun _ => traces_pure _
    · exact traces_leaf.bind fun found => traces_leave.bind fun _ => traces_pure _
    · exact traces_unexpected_bind _
  group nested start calls hnested := by
    rw [Descent.group]
    refine traces_currentOffset.bind fun opening => traces_advance.bind fun _ => ?_
    refine (traces_modify fun _ htraced => htraced.moveTo _).bind fun _ => ?_
    refine traces_get.bind fun raised => ?_
    dsimp only
    split
    · exact traces_of_fault fun _ => ⟨_, rfl⟩
    · refine (traces_note _).bind fun _ => ?_
      refine (hcalls.disjunction (nested + 1) hnested).bind fun inner => ?_
      refine (traces_nextIs _).bind fun found => ?_
      split
      · refine traces_advance.bind fun _ => ?_
        exact (traces_modify fun _ htraced => htraced.moveTo _).bind fun _ => traces_pure _
      · exact traces_unexpected_bind _

end CallsTrace

theorem callsTrace (descent : Descent) (room : Nat) : descent.CallsTrace room := by
  -- Without room there are no runs to tell about.
  induction room with
  | zero =>
    exact {
      disjunction := fun _ _ _ _ => traces_noRoom
      moreConjunctions := fun _ _ _ _ _ => traces_noRoom
      conjunction := fun _ _ _ _ => traces_noRoom
      moreTerms := fun _ _ _ _ _ => traces_noRoom
      term := fun _ _ _ _ => traces_noRoom
      group := fun _ _ _ _ => traces_noRoom }
  | succ room ih => exact ih.succ

/-! ## The whole descent -/

/-- The outermost call begins the trace. -/
theorem tracedAfter_disjunction {next : Progress} {result : Except Fault Disjunction}
    (hrun : (descent.disjunction room 0).run.run {} = some (result, next)) :
    TracedAfter (fun _ => []) result next := by
  cases room with
  | zero => cases hrun
  | succ room =>
    have hbegun : Progress.TracedTo (Progress.record {} (.call .disjunction 0 {}))
        [(.disjunction, {})] := .start
    have hnone : groupsAround [] = 0 := rfl
    rw [Descent.disjunction] at hrun
    exact (descent.callsTrace room).inside hnone {} hbegun hrun

/-- A whole descent leaves a trace. Unless it fails, every call it has made has ended. -/
theorem exists_tracedTo_of_run? {result : Except Fault Disjunction}
    (hrun : descent.run? room = some (result, progress)) :
    ∃ calls, progress.TracedTo calls ∧ ∀ tree, result = .ok tree → calls = [] := by
  have hlast (tree : Disjunction) : Traces (do
      if (← descent.peek).isSome then
        descent.unexpected "`AND`, `OR` or end of input"
      return tree) [] fun _ => [] := by
    refine traces_peek.bind fun token => ?_
    dsimp only
    split
    · exact traces_unexpected_bind _
    · exact traces_pure tree
  obtain ⟨reached, next, hdisjunction, hrest⟩ := run_bind_eq_some_iff.1 hrun
  have htraced : TracedAfter (fun _ => []) result progress := by
    have hnext := tracedAfter_disjunction hdisjunction
    cases reached with
    | ok tree => exact hlast tree hnext hrest
    | error fault =>
      cases hrest
      exact hnext
  cases result with
  | ok tree => exact ⟨[], htraced, fun _ _ => rfl⟩
  | error fault =>
    obtain ⟨calls, hcalls⟩ := htraced
    exact ⟨calls, hcalls, fun _ hok => nomatch hok⟩

end FilterQuery.Descent

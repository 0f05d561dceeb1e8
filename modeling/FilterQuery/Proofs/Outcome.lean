/-!
# Outcomes that can be faults

When a computation in several steps has a value, and when it has a fault: every step but the last
that runs has a value, and the first fault is the fault of the whole.
-/

namespace FilterQuery

variable {ε α β : Type} {outcome : Except ε α} {fault : ε} {value : β}

theorem bind_eq_ok_iff {next : α → Except ε β} :
    outcome >>= next = .ok value ↔ ∃ first, outcome = .ok first ∧ next first = .ok value := by
  cases outcome with
  | error cause => simp [bind, Except.bind]
  | ok first => simp [bind, Except.bind]

theorem bind_eq_error_iff {next : α → Except ε β} :
    outcome >>= next = .error fault ↔
      outcome = .error fault ∨ ∃ first, outcome = .ok first ∧ next first = .error fault := by
  cases outcome with
  | error cause => simp [bind, Except.bind]
  | ok first => simp [bind, Except.bind]

theorem map_eq_ok_iff {change : α → β} :
    change <$> outcome = .ok value ↔ ∃ first, outcome = .ok first ∧ change first = value := by
  cases outcome with
  | error cause => simp [Functor.map, Except.map]
  | ok first => simp [Functor.map, Except.map]

theorem map_eq_error_iff {change : α → β} :
    change <$> outcome = .error fault ↔ outcome = .error fault := by
  cases outcome with
  | error cause => simp [Functor.map, Except.map]
  | ok first => simp [Functor.map, Except.map]

variable {step : α → Except ε β} {items : List α}

/-- Steps over a list have values if every item has one. -/
theorem mapM_eq_ok_iff {values : List β} :
    items.mapM step = .ok values ↔ items.map step = values.map .ok := by
  induction items generalizing values with
  | nil => cases values <;> simp [pure, Except.pure]
  | cons item rest ih =>
    simp only [List.mapM_cons, bind_eq_ok_iff, ih, pure, Except.pure, Except.ok.injEq]
    cases values with
    | nil => simp
    | cons value values =>
      constructor
      · rintro ⟨first, hfirst, others, hothers, hvalues⟩
        cases hvalues
        rw [List.map_cons, List.map_cons, hfirst, hothers]
      · intro hmap
        obtain ⟨hfirst, hothers⟩ := List.cons.inj hmap
        exact ⟨value, hfirst, values, hothers, rfl⟩

theorem mapM_congr {other : α → Except ε β} (hsteps : ∀ item ∈ items, step item = other item) :
    items.mapM step = items.mapM other := by
  induction items with
  | nil => rfl
  | cons item rest ih =>
    obtain ⟨hitem, hrest⟩ := List.forall_mem_cons.1 hsteps
    rw [List.mapM_cons, List.mapM_cons, hitem, ih hrest]

theorem map_filter_cons (keep : β → Bool) (value : β) (outcome : Except ε (List β)) :
    (List.filter keep <$> do return value :: (← outcome)) =
      (fun values => if keep value then value :: values else values) <$>
        List.filter keep <$> outcome := by
  cases outcome with
  | error fault => rfl
  | ok values => exact congrArg Except.ok List.filter_cons

/-- Items that are left out make no difference if the values of their steps are left out too. -/
theorem map_filter_mapM {keep : α → Bool} {keepValue : β → Bool} {other : α → Except ε β}
    (hkept : ∀ item ∈ items, keep item = true → step item = other item)
    (hdropped : ∀ item ∈ items, keep item = false →
      ∃ value, step item = .ok value ∧ keepValue value = false) :
    List.filter keepValue <$> items.mapM step =
      List.filter keepValue <$> (items.filter keep).mapM other := by
  induction items with
  | nil => rfl
  | cons item rest ih =>
    obtain ⟨hitem, hothers⟩ := List.forall_mem_cons.1 hkept
    obtain ⟨hdrop, hdrops⟩ := List.forall_mem_cons.1 hdropped
    have hrest := ih hothers hdrops
    cases hkeep : keep item with
    | false =>
      obtain ⟨value, hvalue, hleft⟩ := hdrop hkeep
      rw [List.filter_cons_of_neg (by simp [hkeep]), ← hrest, List.mapM_cons, hvalue]
      apply (map_filter_cons keepValue value _).trans
      simp [hleft]
    | true =>
      rw [List.filter_cons_of_pos hkeep, List.mapM_cons, List.mapM_cons, hitem hkeep]
      cases other item with
      | error fault => rfl
      | ok value =>
        apply (map_filter_cons keepValue value _).trans
        rw [hrest]
        exact (map_filter_cons keepValue value _).symm

theorem exists_mem_eq_ok_of_map_eq {values : List β} {item : α}
    (hvalues : items.map step = values.map .ok) (hitem : item ∈ items) :
    ∃ value ∈ values, step item = .ok value := by
  have hmem := List.mem_map_of_mem (f := step) hitem
  rw [hvalues, List.mem_map] at hmem
  obtain ⟨value, hvalue, hstep⟩ := hmem
  exact ⟨value, hvalue, hstep.symm⟩

/-- Steps over a list have the fault of the first item without a value. -/
theorem mapM_eq_error_iff :
    items.mapM step = .error fault ↔
      ∃ before item after, items = before ++ item :: after ∧
        (∀ earlier ∈ before, ∃ value, step earlier = .ok value) ∧ step item = .error fault := by
  constructor
  · intro hfault
    induction items with
    | nil => cases hfault
    | cons item rest ih =>
      rw [List.mapM_cons, bind_eq_error_iff] at hfault
      rcases hfault with hitem | ⟨value, hvalue, hrest⟩
      · exact ⟨[], item, rest, rfl, by simp, hitem⟩
      · rw [bind_eq_error_iff] at hrest
        rcases hrest with hrest | ⟨values, _, hpure⟩
        · obtain ⟨before, faulty, after, rfl, hbefore, hfaulty⟩ := ih hrest
          exact ⟨item :: before, faulty, after, rfl,
            List.forall_mem_cons.2 ⟨⟨value, hvalue⟩, hbefore⟩, hfaulty⟩
        · cases hpure
  · rintro ⟨before, item, after, rfl, hbefore, hitem⟩
    induction before with
    | nil => rw [List.nil_append, List.mapM_cons, hitem]; rfl
    | cons earlier before ih =>
      obtain ⟨⟨value, hvalue⟩, hothers⟩ := List.forall_mem_cons.1 hbefore
      rw [List.cons_append, List.mapM_cons, hvalue, bind_eq_error_iff]
      exact .inr ⟨value, rfl, bind_eq_error_iff.2 (.inl (ih hothers))⟩

end FilterQuery

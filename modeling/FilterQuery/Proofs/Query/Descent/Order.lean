import FilterQuery.Proofs.Query.Descent
import FilterQuery.Proofs.Query.ViablePrefix
import FilterQuery.Query.Reading.Steps

/-!
# Where a descent can stand

A descent that has consumed some tokens stands where their reading stands: it has the counter of
its open groups and has written its notes, and all that happened on the way was in order. It fails
where and as the reading fails.
-/

namespace FilterQuery

/-! ## Notes of a run -/

namespace Reading

variable {limit position : Nat} {reading next : Reading} {tokens rest : List Token} {token : Token}
  {fault : Fault}

theorem Extends.notesFrom_cons (hextends : Extends limit reading token next) :
    notesFrom limit position reading (token :: tokens) =
      (reading.note? position token).toList ++ notesFrom limit (position + 1) next tokens := by
  rw [notesFrom, hextends.step]

theorem notesFrom_cons_of_fault (hstep : reading.step limit token = .error fault) :
    notesFrom limit position reading (token :: tokens) = [] := by
  rw [notesFrom, hstep]

theorem notesFrom_append_of_run (hrun : reading.run limit tokens = .ok next) :
    notesFrom limit position reading (tokens ++ rest) =
      notesFrom limit position reading tokens ++
        notesFrom limit (position + tokens.length) next rest := by
  induction tokens generalizing position reading with
  | nil =>
    cases hrun
    rfl
  | cons token tokens ih =>
    obtain ⟨middle, hextends, hrest⟩ := run_cons_eq_ok_iff.1 hrun
    simp only [List.cons_append, hextends.notesFrom_cons, ih hrest, List.append_assoc,
      List.length_cons, Nat.add_assoc, Nat.add_comm 1]

end Reading

namespace Descent

/-! ## Events in order -/

/-- One token is consumed, or one group is opened or closed. -/
def Cursor.Adjacent (before after : Cursor) : Prop :=
  after = { before with position := before.position + 1 } ∨
    after = { before with depth := before.depth + 1 } ∨
      before = { after with depth := after.depth + 1 }

/-- A call finds the counter at the number of groups that are open, within the limit. One that
succeeds has consumed at least a leaf and leaves the counter as it was. The cursor changes by one
and stays among the tokens; only for the comparison does the counter exceed the limit by one. -/
def Event.InOrder (descent : Descent) : Event → Prop
  | .call _ nested start =>
    start.position ≤ descent.tokens.length ∧
      start.depth + ((descent.consumed start).map (·.kind)).count (.punctuation .closeParen) =
        ((descent.consumed start).map (·.kind)).count (.punctuation .openParen) ∧
      start.depth ≤ descent.limit ∧ nested = start.depth
  | .success _ start stop =>
    stop.depth = start.depth ∧ start.position + 3 ≤ stop.position ∧
      stop.position ≤ descent.tokens.length
  | .move before after =>
    after.position ≤ descent.tokens.length ∧ after.depth ≤ descent.limit + 1 ∧
      before.Adjacent after
  | .note _ => True

variable {descent : Descent} {progress next : Progress} {reading after : Reading} {token : Token}
  {fault : Fault}

namespace Progress

def InOrder (descent : Descent) (progress : Progress) : Prop :=
  ∀ event ∈ progress.events, event.InOrder descent

theorem InOrder.record {event : Event} (horder : progress.InOrder descent)
    (hevent : event.InOrder descent) : (progress.record event).InOrder descent := by
  intro other hother
  rcases List.mem_append.1 hother with hold | hnew
  · exact horder other hold
  · rw [List.mem_singleton.1 hnew]
    exact hevent

theorem InOrder.note {text : String} (horder : progress.InOrder descent) :
    (progress.record (.note text)).InOrder descent :=
  horder.record trivial

theorem InOrder.advance (horder : progress.InOrder descent)
    (hposition : progress.cursor.position < descent.tokens.length)
    (hdepth : progress.cursor.depth ≤ descent.limit) : progress.advance.InOrder descent :=
  horder.record ⟨hposition, Nat.le_succ_of_le hdepth, .inl rfl⟩

theorem InOrder.raise (horder : progress.InOrder descent)
    (hposition : progress.cursor.position ≤ descent.tokens.length)
    (hdepth : progress.cursor.depth ≤ descent.limit) : progress.raise.InOrder descent :=
  horder.record ⟨hposition, Nat.succ_le_succ hdepth, .inr (.inl rfl)⟩

theorem InOrder.lower (horder : progress.InOrder descent)
    (hposition : progress.cursor.position ≤ descent.tokens.length)
    (hopen : 0 < progress.cursor.depth) (hdepth : progress.cursor.depth ≤ descent.limit) :
    progress.lower.InOrder descent := by
  have hle : progress.cursor.depth - 1 ≤ descent.limit + 1 :=
    Nat.le_trans (Nat.sub_le _ _) (Nat.le_succ_of_le hdepth)
  have hlowered : progress.cursor =
      { progress.cursor with depth := progress.cursor.depth - 1 + 1 } := by
    rw [Nat.sub_add_cancel hopen]
  exact InOrder.record horder ⟨hposition, hle, .inr (.inr hlowered)⟩

@[simp]
theorem notes_note (progress : Progress) (text : String) :
    (progress.record (.note text)).notes = progress.notes ++ [text] :=
  List.filterMap_append

theorem notes_record {event : Event} (hsilent : event.note? = none) (progress : Progress) :
    (progress.record event).notes = progress.notes := by
  simp [notes, record, hsilent]

@[simp]
theorem notes_moveTo (progress : Progress) (cursor : Cursor) :
    (progress.moveTo cursor).notes = progress.notes := by
  simp [notes, moveTo, Event.note?]

@[simp]
theorem notes_advance (progress : Progress) : progress.advance.notes = progress.notes :=
  notes_moveTo progress _

@[simp]
theorem notes_raise (progress : Progress) : progress.raise.notes = progress.notes :=
  notes_moveTo progress _

@[simp]
theorem notes_lower (progress : Progress) : progress.lower.notes = progress.notes :=
  notes_moveTo progress _

end Progress

/-! ## Consumed tokens -/

variable {cursor other : Cursor}

theorem position_lt (hcurrent : descent.current? cursor = some token) :
    cursor.position < descent.tokens.length :=
  (List.getElem?_eq_some_iff.1 hcurrent).1

theorem tokens_eq_consumed_append (hcurrent : descent.current? cursor = some token) :
    descent.tokens =
      descent.consumed cursor ++ token :: descent.tokens.drop (cursor.position + 1) := by
  obtain ⟨hlt, rfl⟩ := List.getElem?_eq_some_iff.1 hcurrent
  rw [List.getElem_cons_drop, consumed, List.take_append_drop]

theorem consumed_succ (hcurrent : descent.current? cursor = some token)
    (hposition : other.position = cursor.position + 1) :
    descent.consumed other = descent.consumed cursor ++ [token] := by
  rw [current?] at hcurrent
  rw [consumed, hposition, List.take_add_one, hcurrent]
  rfl

theorem consumed_of_end (hend : descent.current? cursor = none) :
    descent.consumed cursor = descent.tokens :=
  List.take_of_length_le (List.getElem?_eq_none_iff.1 hend)

/-! ## Standing and failing -/

/-- What reading the tokens one by one comes to. -/
def outcome (descent : Descent) : Except Fault Disjunction := do
  let reading ← Reading.run descent.limit {} descent.tokens
  reading.finish descent.stop

/-- The notes of reading the tokens one by one. -/
def notes (descent : Descent) : List String :=
  Reading.notesFrom descent.limit 0 {} descent.tokens

/-- The descent stands where the reading of the consumed tokens does. -/
structure Stands (descent : Descent) (progress : Progress) (reading : Reading) : Prop where
  within : progress.cursor.position ≤ descent.tokens.length
  run_eq : Reading.run descent.limit {} (descent.consumed progress.cursor) = .ok reading
  depth_eq : progress.cursor.depth = reading.depth
  notes_eq : progress.notes =
    Reading.notesFrom descent.limit 0 {} (descent.consumed progress.cursor)
  inOrder : progress.InOrder descent

/-- Reading the tokens one by one has the same fault and the same notes. -/
structure FailsWith (descent : Descent) (fault : Fault) (progress : Progress) : Prop where
  outcome_eq : descent.outcome = .error fault
  notes_eq : progress.notes = descent.notes
  inOrder : progress.InOrder descent

theorem stands_start (descent : Descent) : descent.Stands {} {} :=
  ⟨Nat.zero_le _, rfl, rfl, rfl, fun _ hevent => by cases hevent⟩

theorem FailsWith.of_notes_eq (hfails : descent.FailsWith fault progress)
    (hnotes : next.notes = progress.notes) (horder : next.InOrder descent) :
    descent.FailsWith fault next :=
  ⟨hfails.outcome_eq, hnotes.trans hfails.notes_eq, horder⟩

namespace Stands

theorem depth_le (hstands : descent.Stands progress reading) :
    progress.cursor.depth ≤ descent.limit :=
  hstands.depth_eq ▸ Reading.depth_le_of_run hstands.run_eq

/-- A call may begin wherever a descent stands. -/
theorem call (hstands : descent.Stands progress reading) (node : Node) :
    (Event.call node reading.depth progress.cursor).InOrder descent := by
  have hcounts := Reading.countsOpen_of_run hstands.run_eq
  rw [Reading.CountsOpen, ← hstands.depth_eq] at hcounts
  exact ⟨hstands.within, hcounts, hstands.depth_le, hstands.depth_eq.symm⟩

theorem success (hstart : descent.Stands progress reading) (hstands : descent.Stands next after)
    (hdepth : after.depth = reading.depth)
    (hplace : progress.cursor.position + 3 ≤ next.cursor.position) (node : Node) :
    (Event.success node progress.cursor next.cursor).InOrder descent :=
  ⟨hstands.depth_eq.trans (hdepth.trans hstart.depth_eq.symm), hplace, hstands.within⟩

theorem record {event : Event} (hstands : descent.Stands progress reading)
    (hevent : event.InOrder descent) (hsilent : event.note? = none) :
    descent.Stands (progress.record event) reading :=
  ⟨hstands.within, hstands.run_eq, hstands.depth_eq,
    (progress.notes_record hsilent).trans hstands.notes_eq, hstands.inOrder.record hevent⟩

/-- The current token is consumed, and what it makes of the reading is written down. -/
theorem extend (hstands : descent.Stands progress reading)
    (hcurrent : descent.current? progress.cursor = some token)
    (hextends : Reading.Extends descent.limit reading token after)
    (hcursor : next.cursor = ⟨progress.cursor.position + 1, after.depth⟩)
    (hnotes : next.notes = progress.notes ++ (reading.note? progress.cursor.position token).toList)
    (horder : next.InOrder descent) : descent.Stands next after := by
  obtain ⟨hwithin, hrun, hdepth, hold, _⟩ := hstands
  have hconsumed : descent.consumed next.cursor = descent.consumed progress.cursor ++ [token] :=
    consumed_succ hcurrent (by rw [hcursor])
  have hlength : (descent.consumed progress.cursor).length = progress.cursor.position :=
    List.length_take_of_le hwithin
  refine ⟨?_, ?_, ?_, ?_, horder⟩
  · rw [hcursor]
    exact position_lt hcurrent
  · rw [hconsumed, Reading.run_append_of_ok hrun]
    exact Reading.run_cons_eq_ok_iff.2 ⟨after, hextends, rfl⟩
  · rw [hcursor]
  · rw [hnotes, hold, hconsumed, Reading.notesFrom_append_of_run hrun, hextends.notesFrom_cons,
      hlength, Nat.zero_add, Reading.notesFrom, List.append_nil]

/-- A token that writes no note and leaves the groups as they are. -/
theorem advance (hstands : descent.Stands progress reading)
    (hcurrent : descent.current? progress.cursor = some token)
    (hextends : Reading.Extends descent.limit reading token after)
    (hdepth : after.depth = reading.depth)
    (hsilent : reading.note? progress.cursor.position token = none) :
    descent.Stands progress.advance after := by
  refine hstands.extend hcurrent hextends ?_ ?_ ?_
  · rw [hdepth, ← hstands.depth_eq]
    rfl
  · simp [hsilent]
  · exact hstands.inOrder.advance (position_lt hcurrent) hstands.depth_le

theorem failsWith (hstands : descent.Stands progress reading)
    (hcurrent : descent.current? progress.cursor = some token)
    (hstep : reading.step descent.limit token = .error fault) :
    descent.FailsWith fault progress := by
  have htokens := tokens_eq_consumed_append hcurrent
  refine ⟨?_, ?_, hstands.inOrder⟩
  · have hfault : Reading.run descent.limit {} descent.tokens = .error fault :=
      Reading.run_eq_error_iff.2 ⟨_, token, _, reading, htokens, hstands.run_eq, hstep⟩
    rw [outcome, hfault]
    rfl
  · rw [hstands.notes_eq, notes]
    conv_rhs => rw [htokens]
    rw [Reading.notesFrom_append_of_run hstands.run_eq, Reading.notesFrom_cons_of_fault hstep,
      List.append_nil]

theorem outcome_of_end (hstands : descent.Stands progress reading)
    (hend : descent.current? progress.cursor = none) :
    descent.outcome = reading.finish descent.stop := by
  have hrun := hstands.run_eq
  rw [consumed_of_end hend] at hrun
  rw [outcome, hrun]
  rfl

theorem notes_of_end (hstands : descent.Stands progress reading)
    (hend : descent.current? progress.cursor = none) : progress.notes = descent.notes := by
  rw [hstands.notes_eq, consumed_of_end hend, notes]

/-- The fault of a descent that finds no token with which the reading goes on. -/
theorem refuse (hstands : descent.Stands progress reading)
    (hnever : ∀ token, descent.current? progress.cursor = some token →
      ∀ limit after, ¬ Reading.Extends limit reading token after)
    (hopen : descent.current? progress.cursor = none → reading.finish descent.stop =
      .error (.unexpectedToken descent.stop reading.expectation "end of input")) :
    descent.FailsWith (.unexpectedToken
      (((descent.current? progress.cursor).map Token.offset).getD descent.stop)
      reading.expectation
      (((descent.current? progress.cursor).map Token.describe).getD "end of input")) progress := by
  cases hcurrent : descent.current? progress.cursor with
  | none =>
    exact ⟨(hstands.outcome_of_end hcurrent).trans (hopen hcurrent),
      hstands.notes_of_end hcurrent, hstands.inOrder⟩
  | some token =>
    exact hstands.failsWith hcurrent
      (Reading.step_eq_refuse (hnever token hcurrent) descent.limit)

end Stands

end Descent

end FilterQuery

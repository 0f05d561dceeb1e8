import FilterQuery.Proofs.Query.Descent.Order

/-!
# What the parts of a descent lead to

A part of a descent leads somewhere if it comes to an end, with a value as promised or with the
fault of reading the tokens one by one. Parts that do lead somewhere can be put one behind the
other; what the smallest parts do is said here once for each.
-/

namespace FilterQuery.Descent

/-- The outcomes that are allowed: the fault of the reading, and values as promised. -/
def Allows {α : Type} (descent : Descent) (post : α → Progress → Prop) :
    Except Fault α → Progress → Prop
  | .ok value, progress => post value progress
  | .error fault, progress => descent.FailsWith fault progress

/-- From the progress made, the act comes to an end, with an outcome that is allowed. -/
def Leads {α : Type} (descent : Descent) (act : Act α) (progress : Progress)
    (post : α → Progress → Prop) : Prop :=
  ∃ result next, act.run.run progress = some (result, next) ∧ descent.Allows post result next

variable {descent : Descent} {progress next : Progress} {token : Token} {fault : Fault}
  {expected name : String} {α β : Type} {post : β → Progress → Prop}

theorem leads_iff_of_ok {act : Act β} {value : β}
    (hrun : act.run.run progress = some (.ok value, next)) :
    descent.Leads act progress post ↔ post value next := by
  constructor
  · rintro ⟨other, last, hother, hallows⟩
    rw [hrun] at hother
    cases hother
    exact hallows
  · exact fun hpost => ⟨.ok value, next, hrun, hpost⟩

theorem leads_iff_of_fault {act : Act β}
    (hrun : act.run.run progress = some (.error fault, next)) :
    descent.Leads act progress post ↔ descent.FailsWith fault next := by
  constructor
  · rintro ⟨other, last, hother, hallows⟩
    rw [hrun] at hother
    cases hother
    exact hallows
  · exact fun hfails => ⟨.error fault, next, hrun, hfails⟩

theorem Leads.bind {act : Act α} {rest : α → Act β} {middle : α → Progress → Prop}
    (hact : descent.Leads act progress middle)
    (hrest : ∀ value next, middle value next → descent.Leads (rest value) next post) :
    descent.Leads (act >>= rest) progress post := by
  obtain ⟨result, next, hrun, hallows⟩ := hact
  cases result with
  | ok value =>
    obtain ⟨last, final, hlast, hfinal⟩ := hrest value next hallows
    exact ⟨last, final, run_bind_eq_some_iff.2 ⟨.ok value, next, hrun, hlast⟩, hfinal⟩
  | error fault =>
    exact ⟨.error fault, next, run_bind_eq_some_iff.2 ⟨.error fault, next, hrun, rfl⟩, hallows⟩

theorem leads_pure {value : β} :
    descent.Leads (pure value) progress post ↔ post value progress :=
  leads_iff_of_ok rfl

theorem leads_throw_bind {rest : α → Act β} :
    descent.Leads (throw fault >>= rest) progress post ↔ descent.FailsWith fault progress :=
  leads_iff_of_fault rfl

theorem leads_get_bind {rest : Progress → Act β} :
    descent.Leads (get >>= rest) progress post ↔ descent.Leads (rest progress) progress post :=
  Iff.rfl

theorem leads_modify_bind {change : Progress → Progress} {rest : Unit → Act β} :
    descent.Leads (modify change >>= rest) progress post ↔
      descent.Leads (rest ()) (change progress) post :=
  Iff.rfl

theorem leads_record_bind {event : Event} {rest : Unit → Act β} :
    descent.Leads (record event >>= rest) progress post ↔
      descent.Leads (rest ()) (progress.record event) post :=
  Iff.rfl

theorem leads_enter_bind {node : Node} {nested : Nat} {rest : Cursor → Act β} :
    descent.Leads (enter node nested >>= rest) progress post ↔
      descent.Leads (rest progress.cursor)
        (progress.record (.call node nested progress.cursor)) post :=
  Iff.rfl

theorem leads_leave_bind {node : Node} {start : Cursor} {rest : Unit → Act β} :
    descent.Leads (leave node start >>= rest) progress post ↔
      descent.Leads (rest ()) (progress.record (.success node start progress.cursor)) post :=
  Iff.rfl

theorem leads_peek_bind {rest : Option Token → Act β} :
    descent.Leads (descent.peek >>= rest) progress post ↔
      descent.Leads (rest (descent.current? progress.cursor)) progress post :=
  Iff.rfl

theorem leads_currentOffset_bind {rest : Nat → Act β} :
    descent.Leads (descent.currentOffset >>= rest) progress post ↔
      descent.Leads
        (rest (((descent.current? progress.cursor).map Token.offset).getD descent.stop))
        progress post :=
  Iff.rfl

theorem leads_unexpected :
    descent.Leads (descent.unexpected expected) progress post ↔
      descent.FailsWith (.unexpectedToken
        (((descent.current? progress.cursor).map Token.offset).getD descent.stop) expected
        (((descent.current? progress.cursor).map Token.describe).getD "end of input"))
        progress :=
  leads_iff_of_fault rfl

theorem leads_unexpected_bind {rest : α → Act β} :
    descent.Leads (descent.unexpected expected >>= rest) progress post ↔
      descent.FailsWith (.unexpectedToken
        (((descent.current? progress.cursor).map Token.offset).getD descent.stop) expected
        (((descent.current? progress.cursor).map Token.describe).getD "end of input"))
        progress :=
  leads_iff_of_fault rfl

/-- A choice by the kind of the current token. -/
theorem leads_ifNext {kind : TokenKind} {found absent : Act β}
    (hfound : ∀ token, descent.current? progress.cursor = some token → token.kind = kind →
      descent.Leads found progress post)
    (habsent : (∀ token, descent.current? progress.cursor = some token → token.kind ≠ kind) →
      descent.Leads absent progress post) :
    descent.Leads (do if ← descent.nextIs kind then found else absent) progress post := by
  change descent.Leads (if (descent.current? progress.cursor).any (·.kind = kind) = true
    then found else absent) progress post
  cases hcurrent : descent.current? progress.cursor with
  | none =>
    rw [if_neg (by simp)]
    exact habsent (by simp [hcurrent])
  | some token =>
    by_cases hkind : token.kind = kind
    · rw [if_pos (by simp [hkind])]
      exact hfound token hcurrent hkind
    · rw [if_neg (by simp [hkind])]
      refine habsent fun other hother => ?_
      rw [hcurrent] at hother
      exact Option.some.inj hother ▸ hkind

theorem leads_advance_bind (hcurrent : descent.current? progress.cursor = some token)
    {rest : Unit → Act β} :
    descent.Leads (descent.advance >>= rest) progress post ↔
      descent.Leads (rest ()) progress.advance post := by
  rw [advance, bind_assoc, leads_get_bind, if_pos (position_lt hcurrent), leads_modify_bind]

theorem leads_takeText_bind (hcurrent : descent.current? progress.cursor = some token)
    {rest : String → Act β} :
    descent.Leads (descent.takeText >>= rest) progress post ↔
      descent.Leads (rest token.text) progress.advance post := by
  rw [takeText, bind_assoc, leads_peek_bind, bind_assoc, leads_advance_bind hcurrent, hcurrent,
    pure_bind]
  rfl

theorem leads_passConnective_bind (hcurrent : descent.current? progress.cursor = some token)
    {rest : Unit → Act β} :
    descent.Leads (descent.passConnective name >>= rest) progress post ↔
      descent.Leads (rest ())
        (progress.record
          (.note (name ++ " at token " ++ toString progress.cursor.position))).advance post := by
  have hnoted (text : String) :
      descent.current? (progress.record (.note text)).cursor = some token := hcurrent
  rw [passConnective, bind_assoc, leads_get_bind, bind_assoc, leads_record_bind,
    leads_advance_bind (hnoted _)]

end FilterQuery.Descent

import FilterQuery.Proofs.Query.Descent.Leading
import FilterQuery.Proofs.Query.Descent.Room
import FilterQuery.Proofs.Query.Descent.Trace

/-!
# The recursion of a descent

Every call leads somewhere: it consumes at least the three tokens of a leaf or fails as the reading
of the tokens does. Four nested calls consume a token at least, so a room of four for every token
ahead, and a few more, is enough. So a descent ends, with the tree or the fault of that reading and
the same notes, and on its way the counter tells how many groups are open.
-/

namespace FilterQuery

/-! ## One more operand -/

namespace Level

variable (level : Level) (last : Term)

theorem append_conjunction (next : Term) :
    (level.conjunction last).append (.one next) = (level.andThen last).conjunction next := by
  have hfold (terms : List Term) (operand : Conjunction) :
      (terms.foldl (fun rest term => .and term rest) operand).append (.one next) =
        terms.foldl (fun rest term => .and term rest) (operand.append (.one next)) := by
    induction terms generalizing operand with
    | nil => rfl
    | cons term terms ih => exact ih (.and term operand)
  exact hfold level.terms (.one last)

theorem join_disjunction (operand : Conjunction) :
    (level.disjunction last).join .or (.one operand) =
      (level.orThen last).conjunctions.foldl (fun rest operand => .or operand rest)
        (.one operand) := by
  have hfold (conjunctions : List Conjunction) (tree : Disjunction) :
      (conjunctions.foldl (fun rest operand => .or operand rest) tree).join .or (.one operand) =
        conjunctions.foldl (fun rest operand => .or operand rest)
          (tree.join .or (.one operand)) := by
    induction conjunctions generalizing tree with
    | nil => rfl
    | cons first conjunctions ih => exact ih (.or first tree)
  exact hfold level.conjunctions (.one (level.conjunction last))

end Level

namespace Descent

/-! ## What calls promise -/

/-- The term has been read, and the cursor is at `least` or behind it. -/
inductive ReadsTerm (descent : Descent) (groups : List OpenGroup) (level : Level) (least : Nat) :
    Term → Progress → Prop
  | intro {found : Term} {next : Progress}
      (hstands : descent.Stands next ⟨groups, level, .continuation found⟩)
      (hplace : least ≤ next.cursor.position) :
      ReadsTerm descent groups level least found next

/-- The conjunction has been read, and no `AND` follows. -/
inductive ReadsConjunction (descent : Descent) (groups : List OpenGroup)
    (conjunctions : List Conjunction) (least : Nat) : Conjunction → Progress → Prop
  | intro {terms : List Term} {last : Term} {next : Progress}
      (hstands : descent.Stands next ⟨groups, ⟨conjunctions, terms⟩, .continuation last⟩)
      (hand : ∀ token, descent.current? next.cursor = some token → token.kind ≠ .connective .and)
      (hplace : least ≤ next.cursor.position) :
      ReadsConjunction descent groups conjunctions least
        (Level.conjunction ⟨conjunctions, terms⟩ last) next

/-- The disjunction has been read, and no connective follows. -/
inductive ReadsDisjunction (descent : Descent) (groups : List OpenGroup) (least : Nat) :
    Disjunction → Progress → Prop
  | intro {level : Level} {last : Term} {next : Progress}
      (hstands : descent.Stands next ⟨groups, level, .continuation last⟩)
      (hconnective : ∀ token, descent.current? next.cursor = some token →
        ∀ word, token.kind ≠ .connective word)
      (hplace : least ≤ next.cursor.position) :
      ReadsDisjunction descent groups least (level.disjunction last) next

/-- There is room for `needed` nested calls where no tokens lie ahead, and for four more with every
token that does. -/
def Suffices (descent : Descent) (room needed : Nat) (progress : Progress) : Prop :=
  4 * descent.tokens.length + needed ≤ 4 * progress.cursor.position + room

/-- Calls for a term lead to it; so do the other calls, each with the room that it needs. -/
def TermsLead (descent : Descent) (room : Nat) : Prop :=
  ∀ ⦃progress : Progress⦄ ⦃groups : List OpenGroup⦄ ⦃level : Level⦄,
    descent.Stands progress ⟨groups, level, .term⟩ → descent.Suffices room 4 progress →
      descent.Leads (descent.term room groups.length) progress
        (descent.ReadsTerm groups level (progress.cursor.position + 3))

def GroupsLead (descent : Descent) (room : Nat) : Prop :=
  ∀ ⦃progress : Progress⦄ ⦃groups : List OpenGroup⦄ ⦃level : Level⦄ ⦃token : Token⦄,
    descent.Stands progress ⟨groups, level, .term⟩ → descent.Suffices room 3 progress →
      descent.current? progress.cursor = some token → token.kind = .punctuation .openParen →
        descent.Leads (descent.group room groups.length) progress
          (descent.ReadsTerm groups level (progress.cursor.position + 3))

def ConjunctionsLead (descent : Descent) (room : Nat) : Prop :=
  ∀ ⦃progress : Progress⦄ ⦃groups : List OpenGroup⦄ ⦃conjunctions : List Conjunction⦄,
    descent.Stands progress ⟨groups, ⟨conjunctions, []⟩, .term⟩ →
      descent.Suffices room 5 progress →
        descent.Leads (descent.conjunction room groups.length) progress
          (descent.ReadsConjunction groups conjunctions (progress.cursor.position + 3))

def MoreTermsLead (descent : Descent) (room : Nat) : Prop :=
  ∀ ⦃progress : Progress⦄ ⦃groups : List OpenGroup⦄ ⦃conjunctions : List Conjunction⦄
    ⦃terms : List Term⦄ ⦃last : Term⦄ ⦃least : Nat⦄,
    descent.Stands progress ⟨groups, ⟨conjunctions, terms⟩, .continuation last⟩ →
      descent.Suffices room 1 progress → least ≤ progress.cursor.position →
        descent.Leads
          (descent.moreTerms room groups.length (Level.conjunction ⟨conjunctions, terms⟩ last))
          progress (descent.ReadsConjunction groups conjunctions least)

def DisjunctionsLead (descent : Descent) (room : Nat) : Prop :=
  ∀ ⦃progress : Progress⦄ ⦃groups : List OpenGroup⦄,
    descent.Stands progress ⟨groups, {}, .term⟩ → descent.Suffices room 6 progress →
      descent.Leads (descent.disjunction room groups.length) progress
        (descent.ReadsDisjunction groups (progress.cursor.position + 3))

def MoreConjunctionsLead (descent : Descent) (room : Nat) : Prop :=
  ∀ ⦃progress : Progress⦄ ⦃groups : List OpenGroup⦄ ⦃level : Level⦄ ⦃last : Term⦄ ⦃least : Nat⦄,
    descent.Stands progress ⟨groups, level, .continuation last⟩ →
      (∀ token, descent.current? progress.cursor = some token →
        token.kind ≠ .connective .and) →
        descent.Suffices room 2 progress → least ≤ progress.cursor.position →
          descent.Leads (descent.moreConjunctions room groups.length (level.disjunction last))
            progress (descent.ReadsDisjunction groups least)

/-- Where the room suffices, calls of every kind lead to what they promise. -/
structure CallsLead (descent : Descent) (room : Nat) : Prop where
  disjunctions : descent.DisjunctionsLead room
  moreConjunctions : descent.MoreConjunctionsLead room
  conjunctions : descent.ConjunctionsLead room
  moreTerms : descent.MoreTermsLead room
  terms : descent.TermsLead room
  groups : descent.GroupsLead room

variable {descent : Descent} {progress next : Progress} {reading after : Reading} {token : Token}
  {groups : List OpenGroup} {level : Level} {last : Term} {room needed fewer : Nat}

/-! ## Room -/

namespace Suffices

theorem mono (hroom : descent.Suffices room needed progress) (hle : fewer ≤ needed) :
    descent.Suffices room fewer progress :=
  Nat.le_trans (Nat.add_le_add_left hle _) hroom

/-- Room for a call made at once. -/
theorem call (hroom : descent.Suffices (room + 1) (needed + 1) progress) :
    descent.Suffices room needed progress :=
  Nat.le_of_succ_le_succ hroom

/-- Room for a call made once a token is consumed. -/
theorem ahead (hroom : descent.Suffices (room + 1) needed progress)
    (hmoved : progress.cursor.position < next.cursor.position) :
    descent.Suffices room (needed + 3) next := by
  rw [Suffices] at hroom ⊢
  omega

end Suffices

theorem Stands.not_suffices_zero (hstands : descent.Stands progress reading) :
    ¬ descent.Suffices 0 (needed + 1) progress := by
  have hwithin := hstands.within
  rw [Suffices]
  omega

/-! ## Leaves -/

/-- The last of the three tokens of a leaf. -/
theorem leads_value {key : String} (hstands : descent.Stands progress ⟨groups, level, .value key⟩)
    (hcurrent : descent.current? progress.cursor = some token)
    (hword : token.kind = .key ∨ token.kind = .value) :
    descent.Leads (do
      let value ← descent.takeText
      Descent.record (.note ("leaf " ++ key ++ ":" ++ value))
      return .leaf key value) progress
        (descent.ReadsTerm groups level (progress.cursor.position + 1)) := by
  rw [leads_takeText_bind hcurrent, leads_record_bind, leads_pure]
  have horder := hstands.inOrder.advance (position_lt hcurrent) hstands.depth_le
  refine .intro (hstands.extend hcurrent (.value hword) ?_ ?_ horder.note) (Nat.le_refl _)
  · exact congrArg (Cursor.mk _) hstands.depth_eq
  · simp [Reading.note?]

theorem leads_leaf (hstands : descent.Stands progress ⟨groups, level, .term⟩)
    (hcurrent : descent.current? progress.cursor = some token) (hkey : token.kind = .key) :
    descent.Leads descent.leaf progress
      (descent.ReadsTerm groups level (progress.cursor.position + 3)) := by
  have hcolon : descent.Stands progress.advance ⟨groups, level, .colon token.text⟩ :=
    hstands.advance hcurrent (.key hkey) rfl (by simp [Reading.note?, hkey])
  rw [leaf, leads_takeText_bind hcurrent]
  refine leads_ifNext (fun colon hcurrent hmark => ?_) fun hnone => ?_
  · have hvalue : descent.Stands progress.advance.advance ⟨groups, level, .value token.text⟩ :=
      hcolon.advance hcurrent (.colon hmark) rfl (by simp [Reading.note?])
    rw [leads_advance_bind hcurrent, leads_peek_bind]
    split
    · next hkind =>
      obtain ⟨value, hcurrent, hkey⟩ := Option.map_eq_some_iff.1 hkind
      exact leads_value hvalue hcurrent (.inl hkey)
    · next hkind =>
      obtain ⟨value, hcurrent, hvalueKind⟩ := Option.map_eq_some_iff.1 hkind
      exact leads_value hvalue hcurrent (.inr hvalueKind)
    · next hkey hword =>
      rw [leads_unexpected]
      refine hvalue.refuse (fun other hother limit after hextends => ?_) fun _ => rfl
      cases hextends with
      | value hkind =>
        rcases hkind with hkind | hkind
        · exact hkey (Option.map_eq_some_iff.2 ⟨other, hother, hkind⟩)
        · exact hword (Option.map_eq_some_iff.2 ⟨other, hother, hkind⟩)
  · rw [leads_unexpected_bind]
    refine hcolon.refuse (fun other hother limit after hextends => ?_) fun _ => rfl
    cases hextends with
    | colon hkind => exact hnone other hother hkind

/-! ## Operands -/

/-- A connective is passed, and the reading awaits the next operand. -/
theorem Stands.leads_passConnective {name : String} {α : Type} {rest : Unit → Act α}
    {post : α → Progress → Prop} (hstands : descent.Stands progress reading)
    (hcurrent : descent.current? progress.cursor = some token)
    (hextends : Reading.Extends descent.limit reading token after)
    (hdepth : after.depth = reading.depth)
    (hnote : reading.note? progress.cursor.position token =
      some (name ++ " at token " ++ toString progress.cursor.position))
    (hrest : ∀ next, descent.Stands next after →
      next.cursor.position = progress.cursor.position + 1 → descent.Leads (rest ()) next post) :
    descent.Leads (descent.passConnective name >>= rest) progress post := by
  rw [leads_passConnective_bind hcurrent]
  refine hrest _ (hstands.extend hcurrent hextends ?_ ?_ ?_) rfl
  · rw [hdepth, ← hstands.depth_eq]
    rfl
  · simp [hnote]
  · exact hstands.inOrder.note.advance (position_lt hcurrent) hstands.depth_le

namespace CallsLead

theorem moreTerms_succ (hcalls : descent.CallsLead room) : descent.MoreTermsLead (room + 1) := by
  intro progress groups conjunctions terms last least hstands hroom hleast
  rw [Descent.moreTerms]
  refine leads_ifNext (fun token hcurrent hand => ?_) fun hnone => ?_
  · apply hstands.leads_passConnective hcurrent (.and hand) rfl (by simp [Reading.note?, hand])
    intro middle hmiddle hmoved
    have hahead : progress.cursor.position < middle.cursor.position := by omega
    refine (hcalls.terms hmiddle (hroom.ahead hahead)).bind ?_
    rintro _ next ⟨hfound, hplace⟩
    have hfurther : progress.cursor.position < next.cursor.position := by omega
    rw [Level.append_conjunction]
    exact hcalls.moreTerms hfound ((hroom.ahead hfurther).mono (by decide)) (by omega)
  · rw [leads_pure]
    exact .intro hstands hnone hleast

theorem conjunctions_succ (hcalls : descent.CallsLead room) :
    descent.ConjunctionsLead (room + 1) := by
  intro progress groups conjunctions hstands hroom
  rw [Descent.conjunction, leads_enter_bind]
  refine (hcalls.terms (hstands.record (hstands.call .conjunction) rfl) hroom.call).bind ?_
  rintro _ middle ⟨hfound, hplace⟩
  have hahead : progress.cursor.position < middle.cursor.position :=
    Nat.lt_of_lt_of_le (Nat.lt_add_of_pos_right (by decide)) hplace
  refine (hcalls.moreTerms hfound ((hroom.ahead hahead).mono (by decide)) hplace).bind ?_
  rintro _ _ ⟨hlast, hand, hplace⟩
  rw [leads_leave_bind, leads_pure]
  exact .intro (hlast.record (hstands.success hlast rfl hplace .conjunction) rfl) hand hplace

theorem moreConjunctions_succ (hcalls : descent.CallsLead room) :
    descent.MoreConjunctionsLead (room + 1) := by
  intro progress groups level last least hstands hand hroom hleast
  rw [Descent.moreConjunctions]
  refine leads_ifNext (fun token hcurrent hor => ?_) fun hnone => ?_
  · apply hstands.leads_passConnective hcurrent (.or hor) rfl (by simp [Reading.note?, hor])
    intro middle hmiddle hmoved
    have hahead : progress.cursor.position < middle.cursor.position := by omega
    refine (hcalls.conjunctions hmiddle (hroom.ahead hahead)).bind ?_
    rintro _ next ⟨hfound, hand, hplace⟩
    have hfurther : progress.cursor.position < next.cursor.position := by omega
    rw [Level.join_disjunction]
    exact hcalls.moreConjunctions hfound hand ((hroom.ahead hfurther).mono (by decide)) (by omega)
  · rw [leads_pure]
    refine .intro hstands (fun token htoken word hword => ?_) hleast
    cases word with
    | and => exact hand token htoken hword
    | or => exact hnone token htoken hword

theorem disjunctions_succ (hcalls : descent.CallsLead room) :
    descent.DisjunctionsLead (room + 1) := by
  intro progress groups hstands hroom
  rw [Descent.disjunction, leads_enter_bind]
  refine (hcalls.conjunctions (hstands.record (hstands.call .disjunction) rfl) hroom.call).bind ?_
  rintro _ middle ⟨hfound, hand, hplace⟩
  have hahead : progress.cursor.position < middle.cursor.position :=
    Nat.lt_of_lt_of_le (Nat.lt_add_of_pos_right (by decide)) hplace
  refine (hcalls.moreConjunctions hfound hand ((hroom.ahead hahead).mono (by decide))
    hplace).bind ?_
  rintro _ _ ⟨hlast, hconnective, hplace⟩
  rw [leads_leave_bind, leads_pure]
  exact .intro (hlast.record (hstands.success hlast rfl hplace .disjunction) rfl) hconnective hplace

end CallsLead

/-! ## Groups -/

namespace Stands

/-- Behind its parenthesis a group is open, and the counter and the note say so. -/
theorem openGroup (hstands : descent.Stands progress ⟨groups, level, .term⟩)
    (hcurrent : descent.current? progress.cursor = some token)
    (hopen : token.kind = .punctuation .openParen) (hroom : groups.length < descent.limit) :
    descent.Stands (progress.advance.raise.record (.note
      ("enter group at offset " ++ toString token.offset ++ " (depth " ++
        toString (groups.length + 1) ++ ")"))) ⟨⟨token.offset, level⟩ :: groups, {}, .term⟩ := by
  have hposition := position_lt hcurrent
  have hadvanced := hstands.inOrder.advance hposition hstands.depth_le
  refine hstands.extend hcurrent (.openGroup hopen hroom) ?_ ?_
    (hadvanced.raise hposition hstands.depth_le).note
  · exact congrArg (fun depth => Cursor.mk (progress.cursor.position + 1) (depth + 1))
      hstands.depth_eq
  · simp [Reading.note?, hopen, Reading.depth]

theorem closeGroup {group : OpenGroup}
    (hstands : descent.Stands progress ⟨group :: groups, level, .continuation last⟩)
    (hcurrent : descent.current? progress.cursor = some token)
    (hclose : token.kind = .punctuation .closeParen) :
    descent.Stands progress.advance.lower
      ⟨groups, group.outer, .continuation (.group (level.disjunction last))⟩ := by
  have hposition := position_lt hcurrent
  have hdepth : progress.cursor.depth = groups.length + 1 := hstands.depth_eq
  have hpositive : 0 < progress.cursor.depth := hdepth ▸ Nat.succ_pos _
  have hadvanced := hstands.inOrder.advance hposition hstands.depth_le
  refine hstands.extend hcurrent (.closeGroup hclose) ?_ ?_
    (hadvanced.lower hposition hpositive hstands.depth_le)
  · exact congrArg (fun depth => Cursor.mk (progress.cursor.position + 1) (depth - 1)) hdepth
  · simp [Reading.note?, hclose]

/-- A group too many fails with the counter raised. -/
theorem failsWith_tooDeep (hstands : descent.Stands progress ⟨groups, level, .term⟩)
    (hcurrent : descent.current? progress.cursor = some token)
    (hopen : token.kind = .punctuation .openParen) (hfull : ¬ groups.length < descent.limit) :
    descent.FailsWith (.tooDeep token.offset descent.limit) progress.advance.raise := by
  have hposition := position_lt hcurrent
  have hstep : Reading.step descent.limit ⟨groups, level, .term⟩ token =
      .error (.tooDeep token.offset descent.limit) := by
    simp [Reading.step, hopen, Reading.depth, hfull]
  have hadvanced := hstands.inOrder.advance hposition hstands.depth_le
  exact (hstands.failsWith hcurrent hstep).of_notes_eq (by simp)
    (hadvanced.raise hposition hstands.depth_le)

end Stands

namespace CallsLead

theorem groups_succ (hcalls : descent.CallsLead room) : descent.GroupsLead (room + 1) := by
  intro progress groups level token hstands hroom hcurrent hopen
  have hraised : progress.advance.raise.cursor.depth = groups.length + 1 :=
    congrArg (· + 1) hstands.depth_eq
  rw [Descent.group, leads_currentOffset_bind, leads_advance_bind hcurrent, leads_modify_bind,
    leads_get_bind, hcurrent]
  simp only [hraised]
  by_cases hfree : groups.length < descent.limit
  · rw [if_neg (Nat.not_lt_of_le hfree), leads_record_bind]
    refine (hcalls.disjunctions (hstands.openGroup hcurrent hopen hfree)
      (hroom.ahead (Nat.lt_succ_self _))).bind ?_
    rintro _ next ⟨hlast, hconnective, hafter⟩
    have hplace : progress.cursor.position + 1 + 3 ≤ next.cursor.position := hafter
    refine leads_ifNext (fun closing hclosing hclose => ?_) fun hnone => ?_
    · rw [leads_advance_bind hclosing, leads_modify_bind, leads_pure]
      refine .intro (hlast.closeGroup hclosing hclose) ?_
      change _ ≤ next.cursor.position + 1
      omega
    · rw [leads_unexpected_bind]
      refine hlast.refuse (fun other hother limit after hextends => ?_) fun _ => rfl
      cases hextends with
      | and hkind | or hkind => exact hconnective other hother _ hkind
      | closeGroup hkind => exact hnone other hother hkind
  · rw [if_pos (Nat.lt_succ_of_le (Nat.le_of_not_lt hfree)), leads_throw_bind]
    exact hstands.failsWith_tooDeep hcurrent hopen hfree

theorem terms_succ (hcalls : descent.CallsLead room) : descent.TermsLead (room + 1) := by
  intro start groups level hstart hroom
  have hstands := hstart.record (hstart.call .term) rfl
  have hleave : ∀ found next,
      descent.ReadsTerm groups level (start.cursor.position + 3) found next →
        descent.Leads (do leave .term start.cursor; return found) next
          (descent.ReadsTerm groups level (start.cursor.position + 3)) := by
    rintro _ _ ⟨hfound, hplace⟩
    rw [leads_leave_bind, leads_pure]
    exact .intro (hfound.record (hstart.success hfound rfl hplace .term) rfl) hplace
  rw [Descent.term, leads_enter_bind, leads_peek_bind]
  dsimp only
  split
  · next hkind =>
    obtain ⟨token, hcurrent, hopen⟩ := Option.map_eq_some_iff.1 hkind
    exact (hcalls.groups hstands hroom.call hcurrent hopen).bind hleave
  · next hkind =>
    obtain ⟨token, hcurrent, hkey⟩ := Option.map_eq_some_iff.1 hkind
    exact (leads_leaf hstands hcurrent hkey).bind hleave
  · next hopen hkey =>
    rw [leads_unexpected_bind]
    refine hstands.refuse (fun other hother limit after hextends => ?_) fun _ => rfl
    cases hextends with
    | key hkind => exact hkey (Option.map_eq_some_iff.2 ⟨other, hother, hkind⟩)
    | openGroup hkind => exact hopen (Option.map_eq_some_iff.2 ⟨other, hother, hkind⟩)

end CallsLead

theorem callsLead (descent : Descent) (room : Nat) : descent.CallsLead room := by
  -- A call hands on one less room than it has, whichever calls it makes.
  induction room with
  | zero =>
    exact {
      disjunctions := fun _ _ hstands hroom => absurd hroom hstands.not_suffices_zero
      moreConjunctions := fun _ _ _ _ _ hstands _ hroom => absurd hroom hstands.not_suffices_zero
      conjunctions := fun _ _ _ hstands hroom => absurd hroom hstands.not_suffices_zero
      moreTerms := fun _ _ _ _ _ _ hstands hroom => absurd hroom hstands.not_suffices_zero
      terms := fun _ _ _ hstands hroom => absurd hroom hstands.not_suffices_zero
      groups := fun _ _ _ _ hstands hroom => absurd hroom hstands.not_suffices_zero }
  | succ room ih =>
    exact {
      disjunctions := ih.disjunctions_succ
      moreConjunctions := ih.moreConjunctions_succ
      conjunctions := ih.conjunctions_succ
      moreTerms := ih.moreTerms_succ
      terms := ih.terms_succ
      groups := ih.groups_succ }

/-! ## The whole descent -/

theorem leads_query (descent : Descent) (hroom : 4 * descent.tokens.length + 6 ≤ room) :
    descent.Leads (descent.query room) {} fun tree next =>
      descent.outcome = .ok tree ∧ next.notes = descent.notes ∧ next.InOrder descent := by
  have hsuffices : descent.Suffices room 6 {} := by
    rwa [Suffices, Nat.mul_zero, Nat.zero_add]
  refine ((descent.callsLead room).disjunctions descent.stands_start hsuffices).bind ?_
  rintro _ next ⟨hlast, hconnective, _⟩
  rw [leads_peek_bind]
  cases hcurrent : descent.current? next.cursor with
  | none =>
    rw [if_neg (by simp), leads_pure]
    exact ⟨hlast.outcome_of_end hcurrent, hlast.notes_of_end hcurrent, hlast.inOrder⟩
  | some token =>
    rw [if_pos (by simp), leads_unexpected_bind]
    refine hlast.refuse (fun other hother limit after hextends => ?_) fun hnone => ?_
    · cases hextends with
      | and hkind | or hkind => exact hconnective other hother _ hkind
    · rw [hcurrent] at hnone
      cases hnone

/-- A descent ends as the reading of its tokens one by one does, and all it does is in order. -/
theorem exists_run?_eq (descent : Descent) (hroom : 4 * descent.tokens.length + 6 ≤ room) :
    ∃ progress, descent.run? room = some (descent.outcome, progress) ∧
      progress.notes = descent.notes ∧ progress.InOrder descent := by
  obtain ⟨result, progress, hrun, hallows⟩ := descent.leads_query hroom
  cases result with
  | ok tree =>
    obtain ⟨houtcome, hrest⟩ := hallows
    exact ⟨progress, hrun.trans (by rw [houtcome]), hrest⟩
  | error fault =>
    exact ⟨progress, hrun.trans (by rw [hallows.outcome_eq]), hallows.notes_eq, hallows.inOrder⟩

/-- Every descent comes to an end, with the tree or fault and the notes of its tokens, whatever room
it has beyond four nested calls for every token and six more. Its events are a trace: they begin with
the outermost call at the start, each further call is made and each success ends the innermost call
that is going on, the moves lead from the start to the last cursor, and with a tree every call has
ended. At every call the counter is the number of parentheses opened and not closed, which is also
the number of group bodies around the call and within the limit. A call that succeeds leaves the
counter as it was, at least three tokens further on. The cursor only ever changes by one: it never
passes the last token, and the counter never falls below zero nor exceeds the limit by more than
one. -/
theorem ends_in_order (maxDepth stop : Nat) (tokens : List Token) :
    ∃ progress : Progress,
      (∀ room, (Descent.mk tokens (nestingLimit maxDepth) stop).run?
          (4 * tokens.length + 6 + room) =
            some (Disjunction.ofTokensEndingAt maxDepth stop tokens, progress)) ∧
        progress.notes = Reading.notes maxDepth tokens ∧
        (∃ calls, Traced progress.events calls progress.cursor ∧
          ∀ tree, Disjunction.ofTokensEndingAt maxDepth stop tokens = .ok tree → calls = []) ∧
        (∀ node nested start, .call node nested start ∈ progress.events →
          start.position ≤ tokens.length ∧
            start.depth +
                ((tokens.take start.position).map (·.kind)).count (.punctuation .closeParen) =
              ((tokens.take start.position).map (·.kind)).count (.punctuation .openParen) ∧
            start.depth ≤ min maxDepth 128 ∧ nested = start.depth) ∧
        (∀ node start stop, .success node start stop ∈ progress.events →
          stop.depth = start.depth ∧ start.position + 3 ≤ stop.position ∧
            stop.position ≤ tokens.length) ∧
        ∀ before after, .move before after ∈ progress.events →
          after.position ≤ tokens.length ∧ after.depth ≤ min maxDepth 128 + 1 ∧
            (after = { before with position := before.position + 1 } ∨
              after = { before with depth := before.depth + 1 } ∨
                before = { after with depth := after.depth + 1 }) := by
  obtain ⟨progress, hrun, hnotes, horder⟩ :=
    (Descent.mk tokens (nestingLimit maxDepth) stop).exists_run?_eq (Nat.le_refl _)
  refine ⟨progress, run?_add hrun, hnotes, exists_tracedTo_of_run? hrun, ?_, ?_, ?_⟩
  · exact fun node nested start hcall => horder _ hcall
  · exact fun node start stop hsuccess => horder _ hsuccess
  · exact fun before after hmove => horder _ hmove

end Descent

end FilterQuery

import FilterQuery.Proofs.Query.Grammar
import FilterQuery.Proofs.Query.Step

/-!
# Readings against the grammar

Tokens are read as a tree exactly when the grammar derives that tree from them and its groups nest
no deeper than the limit. One half follows the derivation: the tokens of a node are read as that
node, whatever surrounds it. The other half is an invariant of readings: the tokens read so far are
those of the operands a reading holds, in order, with the connectives and open parentheses between
them.
-/

namespace FilterQuery

/-! ## What is derived is read -/

mutual

/-- Within the limit, the tokens of a term are read as that term at any level; those of the other
nodes as their operands, behind the operands that the level already holds. -/
theorem Term.run_derivedFrom {limit : Nat} {term : Term} {tokens : List Token}
    (hderived : term.DerivedFrom tokens) {groups : List OpenGroup}
    (hfits : groups.length + term.depth ≤ limit) (level : Level) :
    Reading.run limit ⟨groups, level, .term⟩ tokens = .ok ⟨groups, level, .continuation term⟩ := by
  cases hderived with
  | leaf hkey hcolon hvalue =>
    exact Reading.run_cons_eq_ok_iff.2 ⟨_, .key hkey, Reading.run_cons_eq_ok_iff.2
      ⟨_, .colon hcolon, Reading.run_cons_eq_ok_iff.2 ⟨_, .value hvalue, rfl⟩⟩⟩
  | @group opening closing inner tokens hopening hinner hclosing =>
    rw [Term.depth] at hfits
    have hinside : (⟨opening.offset, level⟩ :: groups).length + inner.depth ≤ limit := by
      rw [List.length_cons]
      omega
    -- The tokens inside are read at a level of their own, which the closing token leaves.
    obtain ⟨last, lastLevel, hrun, htree⟩ := Disjunction.run_derivedFrom hinner hinside []
    rw [List.cons_append]
    refine Reading.run_cons_eq_ok_iff.2 ⟨_, .openGroup hopening (by omega), ?_⟩
    refine Reading.run_append_eq_ok_iff.2 ⟨_, hrun, ?_⟩
    refine Reading.run_cons_eq_ok_iff.2 ⟨_, .closeGroup hclosing, ?_⟩
    rw [htree]
    rfl

theorem Conjunction.run_derivedFrom {limit : Nat} {conjunction : Conjunction}
    {tokens : List Token} (hderived : conjunction.DerivedFrom tokens) {groups : List OpenGroup}
    (hfits : groups.length + conjunction.depth ≤ limit) (conjunctions : List Conjunction)
    (terms : List Term) :
    ∃ last lastTerms,
      Reading.run limit ⟨groups, ⟨conjunctions, terms⟩, .term⟩ tokens =
          .ok ⟨groups, ⟨conjunctions, lastTerms⟩, .continuation last⟩ ∧
        Level.conjunction ⟨conjunctions, lastTerms⟩ last =
          terms.foldl (fun rest term => .and term rest) conjunction := by
  cases hderived with
  | one hterm => exact ⟨_, terms, Term.run_derivedFrom hterm hfits _, rfl⟩
  | @and term connective rest tokens further hterm hconnective hrest =>
    rw [Conjunction.depth] at hfits
    have hterms : groups.length + term.depth ≤ limit := by omega
    have hfurther : groups.length + rest.depth ≤ limit := by omega
    obtain ⟨last, lastTerms, hrun, htree⟩ :=
      Conjunction.run_derivedFrom hrest hfurther conjunctions (term :: terms)
    refine ⟨last, lastTerms, ?_, htree⟩
    refine Reading.run_append_eq_ok_iff.2 ⟨_, Term.run_derivedFrom hterm hterms _, ?_⟩
    exact Reading.run_cons_eq_ok_iff.2 ⟨_, .and hconnective, hrun⟩

theorem Disjunction.run_derivedFrom {limit : Nat} {tree : Disjunction} {tokens : List Token}
    (hderived : tree.DerivedFrom tokens) {groups : List OpenGroup}
    (hfits : groups.length + tree.depth ≤ limit) (conjunctions : List Conjunction) :
    ∃ last lastLevel,
      Reading.run limit ⟨groups, ⟨conjunctions, []⟩, .term⟩ tokens =
          .ok ⟨groups, lastLevel, .continuation last⟩ ∧
        lastLevel.disjunction last =
          conjunctions.foldl (fun rest operand => .or operand rest) tree := by
  cases hderived with
  | one hoperand =>
    obtain ⟨last, terms, hrun, htree⟩ :=
      Conjunction.run_derivedFrom hoperand hfits conjunctions []
    refine ⟨last, _, hrun, ?_⟩
    rw [Level.disjunction, htree]
    rfl
  | @or operand connective rest tokens further hoperand hconnective hrest =>
    rw [Disjunction.depth] at hfits
    have hfirst : groups.length + operand.depth ≤ limit := by omega
    have hfurther : groups.length + rest.depth ≤ limit := by omega
    obtain ⟨last, terms, hoperandRun, hoperandTree⟩ :=
      Conjunction.run_derivedFrom hoperand hfirst conjunctions []
    obtain ⟨final, level, hrun, htree⟩ :=
      Disjunction.run_derivedFrom hrest hfurther (operand :: conjunctions)
    refine ⟨final, level, ?_, htree⟩
    refine Reading.run_append_eq_ok_iff.2 ⟨_, hoperandRun, ?_⟩
    refine Reading.run_cons_eq_ok_iff.2 ⟨_, .or hconnective, ?_⟩
    rw [Level.orThen, hoperandTree]
    exact hrun

end

/-! ## What is read is derived -/

/-- A node is derived from the tokens and nests no deeper than `room`. -/
def Term.DerivedWithin (room : Nat) (term : Term) (tokens : List Token) : Prop :=
  term.DerivedFrom tokens ∧ term.depth ≤ room

def Conjunction.DerivedWithin (room : Nat) (conjunction : Conjunction) (tokens : List Token) :
    Prop :=
  conjunction.DerivedFrom tokens ∧ conjunction.depth ≤ room

def Disjunction.DerivedWithin (room : Nat) (tree : Disjunction) (tokens : List Token) : Prop :=
  tree.DerivedFrom tokens ∧ tree.depth ≤ room

theorem Term.derivedWithin_leaf {key colon value : Token} (hkey : key.kind = .key)
    (hcolon : colon.kind = .punctuation .colon) (hvalue : value.kind = .key ∨ value.kind = .value)
    (room : Nat) : (Term.leaf key.text value.text).DerivedWithin room [key, colon, value] :=
  ⟨.leaf hkey hcolon hvalue, Nat.zero_le room⟩

theorem Term.derivedWithin_group {opening closing : Token} {inner : Disjunction}
    {tokens : List Token} {inside room : Nat} (hopening : opening.kind = .punctuation .openParen)
    (hinner : inner.DerivedWithin inside tokens)
    (hclosing : closing.kind = .punctuation .closeParen) (hroom : inside < room) :
    (Term.group inner).DerivedWithin room (opening :: tokens ++ [closing]) := by
  refine ⟨.group hopening hinner.1 hclosing, ?_⟩
  have hdepth := hinner.2
  rw [Term.depth]
  omega

/-- The tokens are those of the operands, the newest first, each followed by the connective. -/
inductive EachBefore {α : Type} (word : Connective) (derived : α → List Token → Prop) :
    List α → List Token → Prop
  | nil : EachBefore word derived [] []
  | cons {operand : α} {operands : List α} {connective : Token} {tokens further : List Token}
      (hoperands : EachBefore word derived operands tokens) (hoperand : derived operand further)
      (hconnective : connective.kind = .connective word) :
      EachBefore word derived (operand :: operands) (tokens ++ further ++ [connective])

variable {room : Nat} {tokens operand : List Token} {last : Term} {level : Level}

/-- Operands are put back in front of the last one in the order in which they were read. -/
theorem EachBefore.foldl {α β : Type} {word : Connective} {derived : α → List Token → Prop}
    {joined : β → List Token → Prop} {join : β → α → β}
    (hjoin : ∀ {operand rest connective tokens further}, derived operand tokens →
      connective.kind = .connective word → joined rest further →
        joined (join rest operand) (tokens ++ connective :: further))
    {operands : List α} (hoperands : EachBefore word derived operands tokens) {last : β}
    (hlast : joined last operand) : joined (operands.foldl join last) (tokens ++ operand) := by
  induction hoperands generalizing last operand with
  | nil => exact hlast
  | @cons newest operands connective tokens further _ hnewest hconnective ih =>
    have hextended : joined (join last newest) (further ++ connective :: operand) :=
      hjoin hnewest hconnective hlast
    simpa using ih hextended

theorem Level.derivedWithin_conjunction (level : Level)
    (hterms : EachBefore .and (Term.DerivedWithin room) level.terms tokens)
    (hlast : last.DerivedWithin room operand) :
    (level.conjunction last).DerivedWithin room (tokens ++ operand) := by
  have hone : (Conjunction.one last).DerivedWithin room operand := ⟨.one hlast.1, hlast.2⟩
  apply EachBefore.foldl _ hterms hone
  intro term rest connective tokens further hterm hconnective hrest
  exact ⟨.and hterm.1 hconnective hrest.1, Nat.max_le.2 ⟨hterm.2, hrest.2⟩⟩

namespace Level

/-- The tokens are those of the level's complete operands, each with the connective after it. -/
inductive ReadFrom (room : Nat) : Level → List Token → Prop
  | intro {conjunctions : List Conjunction} {terms : List Term} {earlier current : List Token}
      (hconjunctions : EachBefore .or (Conjunction.DerivedWithin room) conjunctions earlier)
      (hterms : EachBefore .and (Term.DerivedWithin room) terms current) :
      ReadFrom room ⟨conjunctions, terms⟩ (earlier ++ current)

theorem readFrom_empty (room : Nat) : ReadFrom room {} [] :=
  .intro .nil .nil

theorem ReadFrom.andThen (hlevel : level.ReadFrom room tokens)
    (hlast : last.DerivedWithin room operand) {connective : Token}
    (hconnective : connective.kind = .connective .and) :
    (level.andThen last).ReadFrom room (tokens ++ operand ++ [connective]) := by
  obtain ⟨hconjunctions, hterms⟩ := hlevel
  simpa [Level.andThen] using ReadFrom.intro hconjunctions (.cons hterms hlast hconnective)

theorem ReadFrom.orThen (hlevel : level.ReadFrom room tokens)
    (hlast : last.DerivedWithin room operand) {connective : Token}
    (hconnective : connective.kind = .connective .or) :
    (level.orThen last).ReadFrom room (tokens ++ operand ++ [connective]) := by
  obtain @⟨conjunctions, terms, earlier, current, hconjunctions, hterms⟩ := hlevel
  have hconjunction := derivedWithin_conjunction ⟨conjunctions, terms⟩ hterms hlast
  simpa [Level.orThen] using ReadFrom.intro (.cons hconjunctions hconjunction hconnective) .nil

theorem ReadFrom.disjunction (hlevel : level.ReadFrom room tokens)
    (hlast : last.DerivedWithin room operand) :
    (level.disjunction last).DerivedWithin room (tokens ++ operand) := by
  obtain @⟨conjunctions, terms, earlier, current, hconjunctions, hterms⟩ := hlevel
  have hconjunction := derivedWithin_conjunction ⟨conjunctions, terms⟩ hterms hlast
  have hone : (Disjunction.one (conjunction ⟨conjunctions, terms⟩ last)).DerivedWithin room
      (current ++ operand) := ⟨.one hconjunction.1, hconjunction.2⟩
  rw [List.append_assoc]
  apply EachBefore.foldl _ hconjunctions hone
  intro conjunction rest connective tokens further hconjunction hconnective hrest
  exact ⟨.or hconjunction.1 hconnective hrest.1, Nat.max_le.2 ⟨hconjunction.2, hrest.2⟩⟩

end Level

/-- The tokens are those of the levels that open groups interrupt, each with the parenthesis after
it. A group inside `n` others leaves `limit - n` levels for what stands beside it. -/
inductive OpenGroup.ReadFrom (limit : Nat) : List OpenGroup → List Token → Prop
  | nil : OpenGroup.ReadFrom limit [] []
  | cons {group : OpenGroup} {groups : List OpenGroup} {opening : Token}
      {tokens further : List Token} (hgroups : OpenGroup.ReadFrom limit groups tokens)
      (houter : group.outer.ReadFrom (limit - groups.length) further)
      (hopening : opening.kind = .punctuation .openParen) (hroom : groups.length < limit) :
      OpenGroup.ReadFrom limit (group :: groups) (tokens ++ further ++ [opening])

/-- The tokens are those of the term being read. -/
inductive Awaited.ReadFrom (room : Nat) : Awaited → List Token → Prop
  | term : Awaited.ReadFrom room .term []
  | colon {key : Token} (hkey : key.kind = .key) : Awaited.ReadFrom room (.colon key.text) [key]
  | value {key colon : Token} (hkey : key.kind = .key)
      (hcolon : colon.kind = .punctuation .colon) :
      Awaited.ReadFrom room (.value key.text) [key, colon]
  | continuation {last : Term} {tokens : List Token} (hlast : last.DerivedWithin room tokens) :
      Awaited.ReadFrom room (.continuation last) tokens

namespace Reading

variable {limit : Nat} {reading next : Reading} {token : Token}

/-- The tokens are those that a reading under the limit has passed. -/
inductive ReadFrom (limit : Nat) : Reading → List Token → Prop
  | intro {groups : List OpenGroup} {level : Level} {awaited : Awaited}
      {outside complete current : List Token} (hgroups : OpenGroup.ReadFrom limit groups outside)
      (hlevel : level.ReadFrom (limit - groups.length) complete)
      (hawaited : awaited.ReadFrom (limit - groups.length) current) :
      ReadFrom limit ⟨groups, level, awaited⟩ (outside ++ complete ++ current)

theorem readFrom_start (limit : Nat) : ReadFrom limit {} [] :=
  .intro .nil (Level.readFrom_empty limit) .term

/-- Every step keeps the invariant. -/
theorem ReadFrom.extend (hread : reading.ReadFrom limit tokens)
    (hextends : Extends limit reading token next) : next.ReadFrom limit (tokens ++ [token]) := by
  obtain ⟨hgroups, hlevel, hawaited⟩ := hread
  cases hextends with
  | key hkind =>
    cases hawaited
    simpa using ReadFrom.intro hgroups hlevel (.colon hkind)
  | openGroup hkind hroom =>
    cases hawaited
    simpa using ReadFrom.intro (.cons hgroups hlevel hkind hroom) (Level.readFrom_empty _) .term
  | colon hkind =>
    cases hawaited with
    | colon hkey => simpa using ReadFrom.intro hgroups hlevel (.value hkey hkind)
  | value hkind =>
    cases hawaited with
    | value hkey hcolon =>
      have hleaf := Term.derivedWithin_leaf hkey hcolon hkind
      simpa using ReadFrom.intro hgroups hlevel (.continuation (hleaf _))
  | and hkind =>
    cases hawaited with
    | continuation hlast =>
      simpa using ReadFrom.intro hgroups (hlevel.andThen hlast hkind) .term
  | or hkind =>
    cases hawaited with
    | continuation hlast =>
      simpa using ReadFrom.intro hgroups (hlevel.orThen hlast hkind) .term
  | closeGroup hkind =>
    cases hawaited with
    | continuation hlast =>
      have hinner := hlevel.disjunction hlast
      cases hgroups with
      | cons hgroups houter hopening hroom =>
        rw [List.length_cons] at hinner
        have hgroup := Term.derivedWithin_group hopening hinner hkind
          (Nat.sub_succ_lt_self _ _ hroom)
        simpa using ReadFrom.intro hgroups houter (.continuation hgroup)

/-- The tokens of a run that starts afresh are those its reading has passed. -/
theorem readFrom_of_run (hrun : Reading.run limit {} tokens = .ok reading) :
    reading.ReadFrom limit tokens := by
  simpa using run_induction ReadFrom.extend (readFrom_start limit) hrun

/-- A query may end where a term is complete and no group is open. -/
theorem finish_eq_ok_iff {stop : Nat} {tree : Disjunction} :
    reading.finish stop = .ok tree ↔
      ∃ level last, reading = ⟨[], level, .continuation last⟩ ∧ level.disjunction last = tree := by
  obtain ⟨groups, level, awaited⟩ := reading
  cases awaited <;> cases groups <;> simp [finish]

/-- A run under the limit that may end gives the trees which the grammar derives within it. -/
theorem run_finish_eq_ok_iff (stop : Nat) {tree : Disjunction} :
    (∃ reading, Reading.run limit {} tokens = .ok reading ∧ reading.finish stop = .ok tree) ↔
      tree.DerivedWithin limit tokens := by
  constructor
  · rintro ⟨reading, hrun, hfinish⟩
    obtain ⟨level, last, rfl, rfl⟩ := finish_eq_ok_iff.1 hfinish
    obtain ⟨hgroups, hlevel, hawaited⟩ := readFrom_of_run hrun
    -- No group is open, so all tokens are those of the outermost level and its last term.
    cases hgroups
    cases hawaited with
    | continuation hlast => simpa using hlevel.disjunction hlast
  · rintro ⟨hderived, hdepth⟩
    have hfits : ([] : List OpenGroup).length + tree.depth ≤ limit := by simpa using hdepth
    obtain ⟨last, level, hrun, htree⟩ := Disjunction.run_derivedFrom hderived hfits []
    exact ⟨_, hrun, finish_eq_ok_iff.2 ⟨level, last, rfl, htree⟩⟩

end Reading

namespace Disjunction

variable {tree : Disjunction}

/-- The grammar derives at most one tree from a list of tokens. -/
theorem derivedFrom_unique {other : Disjunction} (htree : tree.DerivedFrom tokens)
    (hother : other.DerivedFrom tokens) : tree = other := by
  -- Under a limit that both trees keep to, one run has both as its result.
  have hleft : tree.DerivedWithin (max tree.depth other.depth) tokens :=
    ⟨htree, Nat.le_max_left _ _⟩
  have hright : other.DerivedWithin (max tree.depth other.depth) tokens :=
    ⟨hother, Nat.le_max_right _ _⟩
  obtain ⟨first, hfirst, hfirstTree⟩ := (Reading.run_finish_eq_ok_iff 0).2 hleft
  obtain ⟨second, hsecond, hsecondTree⟩ := (Reading.run_finish_eq_ok_iff 0).2 hright
  rw [hfirst] at hsecond
  cases hsecond
  rw [hfirstTree] at hsecondTree
  exact Except.ok.inj hsecondTree

/-- Wherever the query ends, the tree is the one that the grammar derives within the limit. -/
theorem ofTokensEndingAt_eq_ok_iff {maxDepth stop : Nat} :
    ofTokensEndingAt maxDepth stop tokens = .ok tree ↔
      tree.DerivedWithin (nestingLimit maxDepth) tokens := by
  rw [← Reading.run_finish_eq_ok_iff stop, ofTokensEndingAt, bind_eq_ok_iff]

/-- A query is read as the tree that the grammar derives from its tokens within the limit. -/
theorem ofQuery_eq_ok_iff {maxDepth : Nat} {query : String} :
    ofQuery maxDepth query = .ok tree ↔
      ∃ tokens, Token.scan query = .ok tokens ∧
        tree.DerivedWithin (nestingLimit maxDepth) tokens := by
  simp only [ofQuery, bind_eq_ok_iff, ofTokensEndingAt_eq_ok_iff]

/-- Tokens are read as a tree exactly when the grammar derives it from all of them and it nests no
deeper than the limit; and they stand for one tree at most. -/
theorem ofTokens_eq_ok_iff_derivedFrom (maxDepth : Nat) (tokens : List Token) :
    (∀ tree, ofTokens maxDepth tokens = .ok tree ↔
        tree.DerivedFrom tokens ∧ tree.depth ≤ min maxDepth 128) ∧
      {tree : Disjunction | tree.DerivedFrom tokens}.Subsingleton := by
  constructor
  · intro tree
    exact ofTokensEndingAt_eq_ok_iff
  · intro tree htree other hother
    exact derivedFrom_unique htree hother

end Disjunction

end FilterQuery

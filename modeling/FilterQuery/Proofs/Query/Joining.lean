import FilterQuery.Proofs.Query.Derivation

/-!
# What can stand behind a query

Behind an accepted query nothing may stand, or a connective and another accepted query. The trees
of both are then joined: `OR` keeps all of their conjunctions, and `AND` makes one of the two that
meet. Parentheses around a query take one level of nesting.
-/

namespace FilterQuery

/-! ## Joined trees -/

/-- The terms of both conjunctions. -/
def Conjunction.append : Conjunction → Conjunction → Conjunction
  | .one term, other => .and term other
  | .and term rest, other => .and term (rest.append other)

/-- The conjunctions of both trees with a connective between the last and the first. -/
def Disjunction.join (word : Connective) : Disjunction → Disjunction → Disjunction
  | .or operand rest, other => .or operand (rest.join word other)
  | .one last, other =>
    match word, other with
    | .or, other => .or last other
    | .and, .one first => .one (last.append first)
    | .and, .or first rest => .or (last.append first) rest

@[simp]
theorem Conjunction.operands_append (first second : Conjunction) :
    (first.append second).operands = first.operands ++ second.operands := by
  cases first with
  | one term => rfl
  | and term rest => exact congrArg (term :: ·) (operands_append rest second)

@[simp]
theorem Conjunction.depth_append (first second : Conjunction) :
    (first.append second).depth = max first.depth second.depth := by
  cases first with
  | one term => rfl
  | and term rest => simp only [append, depth, depth_append rest second, Nat.max_assoc]

theorem Conjunction.DerivedFrom.append {first second : Conjunction} {tokens further : List Token}
    {connective : Token} (hfirst : first.DerivedFrom tokens)
    (hconnective : connective.kind = .connective .and) (hsecond : second.DerivedFrom further) :
    (first.append second).DerivedFrom (tokens ++ connective :: further) := by
  cases hfirst with
  | one hterm => exact .and hterm hconnective hsecond
  | and hterm hword hrest =>
    rw [List.append_assoc, List.cons_append]
    exact .and hterm hword (hrest.append hconnective hsecond)

namespace Disjunction

variable {tree other joined : Disjunction} {word : Connective} {limit maxDepth : Nat}
  {tokens further rest : List Token} {connective : Token}

/-- `OR` keeps the conjunctions of both trees. -/
theorem operands_join_or (tree other : Disjunction) :
    (tree.join .or other).operands = tree.operands ++ other.operands := by
  cases tree with
  | one last => rfl
  | or operand rest => exact congrArg (operand :: ·) (operands_join_or rest other)

/-- `AND` makes one conjunction of the last of a tree and the first of the other. -/
theorem operands_join_and (tree other : Disjunction) :
    ∃ front last first back, tree.operands = front ++ [last] ∧ other.operands = first :: back ∧
      (tree.join .and other).operands = front ++ last.append first :: back := by
  cases tree with
  | one last =>
    cases other with
    | one first => exact ⟨[], last, first, [], rfl, rfl, rfl⟩
    | or first rest => exact ⟨[], last, first, rest.operands, rfl, rfl, rfl⟩
  | or operand rest =>
    obtain ⟨front, last, first, back, hrest, hother, hjoin⟩ := operands_join_and rest other
    refine ⟨operand :: front, last, first, back, ?_, hother, ?_⟩
    · exact congrArg (operand :: ·) hrest
    · exact congrArg (operand :: ·) hjoin

@[simp]
theorem depth_join (word : Connective) (tree other : Disjunction) :
    (tree.join word other).depth = max tree.depth other.depth := by
  cases tree with
  | one last =>
    cases word with
    | or => rfl
    | and =>
      cases other with
      | one first => simp only [join, depth, Conjunction.depth_append]
      | or first rest => simp only [join, depth, Conjunction.depth_append, Nat.max_assoc]
  | or operand rest => simp only [join, depth, depth_join word rest other, Nat.max_assoc]

theorem DerivedFrom.join {tree other : Disjunction} {tokens further : List Token}
    (htree : tree.DerivedFrom tokens) (hconnective : connective.kind = .connective word)
    (hother : other.DerivedFrom further) :
    (tree.join word other).DerivedFrom (tokens ++ connective :: further) := by
  cases htree with
  | one hlast =>
    cases word with
    | or => exact .or hlast hconnective hother
    | and =>
      cases hother with
      | one hfirst => exact .one (hlast.append hconnective hfirst)
      | or hfirst hword hrest =>
        rw [← List.cons_append, ← List.append_assoc]
        exact .or (hlast.append hconnective hfirst) hword hrest
  | or hoperand hword hrest =>
    rw [List.append_assoc, List.cons_append]
    exact .or hoperand hword (DerivedFrom.join hrest hconnective hother)

theorem DerivedWithin.join (htree : tree.DerivedWithin limit tokens)
    (hconnective : connective.kind = .connective word)
    (hother : other.DerivedWithin limit further) :
    (tree.join word other).DerivedWithin limit (tokens ++ connective :: further) := by
  refine ⟨htree.1.join hconnective hother.1, ?_⟩
  rw [depth_join]
  exact Nat.max_le.2 ⟨htree.2, hother.2⟩

end Disjunction

/-! ## Readings over other operands -/

/-- The same may come next, whatever term is complete. -/
inductive Awaited.Alike : Awaited → Awaited → Prop
  | term : Awaited.Alike .term .term
  | colon (key : String) : Awaited.Alike (.colon key) (.colon key)
  | value (key : String) : Awaited.Alike (.value key) (.value key)
  | continuation (last other : Term) : Awaited.Alike (.continuation last) (.continuation other)

namespace Reading

/-- The readings await the same inside as many groups. They may have passed other operands. -/
structure Alike (reading other : Reading) : Prop where
  depth_eq : reading.depth = other.depth
  awaited : reading.awaited.Alike other.awaited

variable {limit : Nat} {reading other next : Reading} {token : Token} {tokens : List Token}

/-- What extends a reading depends on nothing but its depth and what it awaits. -/
theorem Extends.exists_alike (hextends : Extends limit reading token next)
    (halike : reading.Alike other) :
    ∃ further, Extends limit other token further ∧ next.Alike further := by
  obtain ⟨others, level, awaited⟩ := other
  obtain ⟨hdepth, hawaited⟩ := halike
  simp only [depth] at hdepth
  cases hextends with
  | key hkind =>
    cases hawaited
    exact ⟨_, .key hkind, hdepth, .colon _⟩
  | openGroup hkind hroom =>
    cases hawaited
    exact ⟨_, .openGroup hkind (hdepth ▸ hroom), congrArg (· + 1) hdepth, .term⟩
  | colon hkind =>
    cases hawaited
    exact ⟨_, .colon hkind, hdepth, .value _⟩
  | value hkind =>
    cases hawaited
    exact ⟨_, .value hkind, hdepth, .continuation _ _⟩
  | and hkind =>
    cases hawaited
    exact ⟨_, .and hkind, hdepth, .term⟩
  | or hkind =>
    cases hawaited
    exact ⟨_, .or hkind, hdepth, .term⟩
  | closeGroup hkind =>
    cases hawaited
    cases others with
    | nil => cases hdepth
    | cons group others => exact ⟨_, .closeGroup hkind, Nat.succ.inj hdepth, .continuation _ _⟩

theorem exists_run_of_alike (halike : reading.Alike other)
    (hrun : reading.run limit tokens = .ok next) :
    ∃ further, other.run limit tokens = .ok further ∧ next.Alike further := by
  induction tokens generalizing reading other with
  | nil =>
    cases hrun
    exact ⟨other, rfl, halike⟩
  | cons token tokens ih =>
    obtain ⟨middle, hextends, hrest⟩ := run_cons_eq_ok_iff.1 hrun
    obtain ⟨along, halong, hmiddle⟩ := hextends.exists_alike halike
    obtain ⟨further, hfurther, hnext⟩ := ih hmiddle hrest
    exact ⟨further, run_cons_eq_ok_iff.2 ⟨along, halong, hfurther⟩, hnext⟩

/-- Tokens that lead from a new term to the end of a query are a query of their own. -/
theorem exists_derivedWithin_of_run {level final : Level} {last : Term}
    (hrun : run limit ⟨[], level, .term⟩ tokens = .ok ⟨[], final, .continuation last⟩) :
    ∃ tree : Disjunction, tree.DerivedWithin limit tokens := by
  have hstart : Alike ⟨[], level, .term⟩ {} := ⟨rfl, .term⟩
  obtain ⟨⟨groups, own, awaited⟩, hfresh, hdepth, hawaited⟩ := exists_run_of_alike hstart hrun
  -- The same tokens, read from the start, end at a complete term outside of all groups.
  cases hawaited with
  | continuation _ ownLast =>
    have hgroups : groups = [] := List.length_eq_zero_iff.1 hdepth.symm
    subst hgroups
    exact ⟨_, (run_finish_eq_ok_iff 0).1
      ⟨_, hfresh, finish_eq_ok_iff.2 ⟨own, ownLast, rfl, rfl⟩⟩⟩

/-- A token that extends a reading which may end there is a connective. -/
theorem Extends.exists_connective {level : Level} {last : Term}
    (hextends : Extends limit ⟨[], level, .continuation last⟩ token next) :
    ∃ word behind, token.kind = .connective word ∧ next = ⟨[], behind, .term⟩ := by
  cases hextends with
  | and hkind => exact ⟨.and, _, hkind, rfl⟩
  | or hkind => exact ⟨.or, _, hkind, rfl⟩

end Reading

/-! ## Accepted tokens one behind the other -/

namespace Disjunction

variable {tree other joined : Disjunction} {word : Connective} {limit maxDepth : Nat}
  {tokens further rest : List Token} {connective opening closing : Token}

/-- What stands between a tree and the end of a longer one begins with a connective. -/
theorem exists_query_behind (htree : tree.DerivedWithin limit tokens)
    (hjoined : joined.DerivedWithin limit (tokens ++ connective :: rest)) :
    ∃ word, ∃ other : Disjunction,
      connective.kind = .connective word ∧ other.DerivedWithin limit rest := by
  obtain ⟨reading, hrun, hfinish⟩ := (Reading.run_finish_eq_ok_iff 0).2 htree
  obtain ⟨level, last, rfl, _⟩ := Reading.finish_eq_ok_iff.1 hfinish
  obtain ⟨final, hwhole, hend⟩ := (Reading.run_finish_eq_ok_iff 0).2 hjoined
  obtain ⟨finalLevel, finalLast, rfl, _⟩ := Reading.finish_eq_ok_iff.1 hend
  rw [Reading.run_append_of_ok hrun] at hwhole
  obtain ⟨next, hextends, hrest⟩ := Reading.run_cons_eq_ok_iff.1 hwhole
  obtain ⟨word, behind, hkind, rfl⟩ := hextends.exists_connective
  obtain ⟨other, hother⟩ := Reading.exists_derivedWithin_of_run hrest
  exact ⟨word, other, hkind, hother⟩

theorem derivedWithin_append_iff (htree : tree.DerivedWithin limit tokens) :
    joined.DerivedWithin limit (tokens ++ further) ↔
      further = [] ∧ joined = tree ∨
        ∃ connective rest word, ∃ other : Disjunction, further = connective :: rest ∧
          connective.kind = .connective word ∧ other.DerivedWithin limit rest ∧
            joined = tree.join word other := by
  constructor
  · intro hjoined
    cases further with
    | nil =>
      rw [List.append_nil] at hjoined
      exact .inl ⟨rfl, derivedFrom_unique hjoined.1 htree.1⟩
    | cons connective rest =>
      obtain ⟨word, other, hkind, hother⟩ := exists_query_behind htree hjoined
      have hjoin := htree.join hkind hother
      exact .inr ⟨connective, rest, word, other, rfl, hkind, hother,
        derivedFrom_unique hjoined.1 hjoin.1⟩
  · rintro (⟨rfl, rfl⟩ | ⟨connective, rest, word, other, rfl, hkind, hother, rfl⟩)
    · rwa [List.append_nil]
    · exact htree.join hkind hother

theorem derivedWithin_parentheses_iff (htree : tree.DerivedWithin limit tokens)
    (hopening : opening.kind = .punctuation .openParen)
    (hclosing : closing.kind = .punctuation .closeParen) :
    joined.DerivedWithin limit (opening :: tokens ++ [closing]) ↔
      tree.depth < limit ∧ joined = .one (.one (.group tree)) := by
  have hgroup : (one (.one (.group tree))).DerivedFrom (opening :: tokens ++ [closing]) :=
    .one (.one (.group hopening htree.1 hclosing))
  constructor
  · rintro ⟨hjoined, hdepth⟩
    have hunique := derivedFrom_unique hjoined hgroup
    subst hunique
    exact ⟨hdepth, rfl⟩
  · rintro ⟨hdepth, rfl⟩
    exact ⟨hgroup, hdepth⟩

/-- Accepted tokens go on to be accepted exactly if nothing follows them, or a connective and
accepted tokens. The tree then has the conjunctions of both trees, of which `AND` makes one of the
two that meet. In parentheses, the tokens are accepted if they leave a level for them. -/
theorem ofTokens_goes_on (haccepted : ofTokens maxDepth tokens = .ok tree) :
    (∀ further joined, ofTokens maxDepth (tokens ++ further) = .ok joined ↔
        further = [] ∧ joined = tree ∨
          ∃ connective rest word other, further = connective :: rest ∧
            connective.kind = .connective word ∧ ofTokens maxDepth rest = .ok other ∧
              joined = tree.join word other) ∧
      (∀ other, (tree.join .or other).operands = tree.operands ++ other.operands) ∧
      (∀ other, ∃ front last first back seam,
        tree.operands = front ++ [last] ∧ other.operands = first :: back ∧
          (tree.join .and other).operands = front ++ seam :: back ∧
            seam.operands = last.operands ++ first.operands) ∧
      ∀ opening closing, opening.kind = .punctuation .openParen →
        closing.kind = .punctuation .closeParen → ∀ grouped,
          ofTokens maxDepth (opening :: tokens ++ [closing]) = .ok grouped ↔
            tree.depth < min maxDepth 128 ∧ grouped = .one (.one (.group tree)) := by
  have hread (tokens : List Token) (tree : Disjunction) :
      ofTokens maxDepth tokens = .ok tree ↔ tree.DerivedWithin (nestingLimit maxDepth) tokens :=
    ofTokensEndingAt_eq_ok_iff
  have htree := (hread tokens tree).1 haccepted
  simp only [hread]
  refine ⟨fun further joined => derivedWithin_append_iff htree, operands_join_or tree, ?_, ?_⟩
  · intro other
    obtain ⟨front, last, first, back, hfront, hback, hjoin⟩ := operands_join_and tree other
    have hseam := Conjunction.operands_append last first
    exact ⟨front, last, first, back, _, hfront, hback, hjoin, hseam⟩
  · intro opening closing hopening hclosing grouped
    exact derivedWithin_parentheses_iff htree hopening hclosing

/-- `a:1 OR b:2` goes on with `AND c:3` and with nothing that closes a group, and fits into
parentheses if there is one level. -/
theorem ofTokens_goes_on_and :
    let leaf (key value : String) (offset : Nat) : List Token :=
      [⟨.key, key, offset⟩, ⟨.punctuation .colon, ":", offset + 1⟩, ⟨.value, value, offset + 2⟩]
    let tokens := leaf "a" "1" 0 ++ ⟨.connective .or, "OR", 4⟩ :: leaf "b" "2" 7
    let opening : Token := ⟨.punctuation .openParen, "(", 0⟩
    let closing : Token := ⟨.punctuation .closeParen, ")", 10⟩
    let tree : Disjunction := .or (.one (.leaf "a" "1")) (.one (.one (.leaf "b" "2")))
    ofTokens 1 tokens = .ok tree ∧
      ofTokens 1 (tokens ++ ⟨.connective .and, "AND", 11⟩ :: leaf "c" "3" 15) =
        .ok (.or (.one (.leaf "a" "1")) (.one (.and (.leaf "b" "2") (.one (.leaf "c" "3"))))) ∧
      (∀ joined, ofTokens 1 (tokens ++ [closing]) ≠ .ok joined) ∧
      ofTokens 1 (opening :: tokens ++ [closing]) = .ok (.one (.one (.group tree))) := by
  intro leaf tokens opening closing tree
  have haccepted : ofTokens 1 tokens = .ok tree := by decide
  obtain ⟨hgoesOn, _, _, hparentheses⟩ := ofTokens_goes_on haccepted
  refine ⟨haccepted, ?_, ?_, ?_⟩
  · have hother : ofTokens 1 (leaf "c" "3" 15) = .ok (.one (.one (.leaf "c" "3"))) := by decide
    apply (hgoesOn _ _).2
    exact .inr ⟨_, _, .and, _, rfl, rfl, hother, rfl⟩
  · intro joined hjoined
    rcases (hgoesOn _ joined).1 hjoined with
      ⟨hnone, _⟩ | ⟨connective, rest, word, other, hclosing, hword, _⟩
    · cases hnone
    · cases hclosing
      cases hword
  · apply (hparentheses opening closing rfl rfl _).2
    exact ⟨by decide, rfl⟩

end Disjunction

end FilterQuery

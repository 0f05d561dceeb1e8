import FilterQuery.Key.Changes
import FilterQuery.Proofs.Config.Keys
import FilterQuery.Proofs.Query.FaultPlace

/-!
# What a key table remembers of its changes

However often a table is changed, it holds for every name the entry of the latest change of that
name since the table was last set up. All that a table tells, and all that its changes answer, can
be read off the changes before.
-/

namespace FilterQuery.KeyTable

/-- A table holds an entry once it is set up: a built-in one, or one of a configuration, which goes
before the built-in one of its name. -/
inductive Origin.Holds : Origin → String → KeyEntry → Prop
  | since : Holds .builtin "since" ⟨.range "createdAt" .lower true .date, .builtin⟩
  | until : Holds .builtin "until" ⟨.range "createdAt" .upper true .date, .builtin⟩
  | configured {config : Config} {name : String} {definition : KeyDefinition} {rule : Rule}
      (hget : config.keys.get? name = some definition) (hrule : definition.Describes rule) :
      Holds (.configured config) name ⟨rule, .file definition.source⟩
  | kept {config : Config} {name : String} {entry : KeyEntry}
      (hswitch : config.settings.builtinKeys = true) (hname : name ∉ config.keys.names)
      (hbuiltin : Holds .builtin name entry) : Holds (.configured config) name entry

/-- The change inserts or removes the name. -/
def Change.Touches (name : String) : Change → Prop
  | .setUp _ => False
  | .insert other _ => other = name
  | .remove other => other = name

/-- The last change of a history that set the table up, and the changes since. A configuration with
a fault sets up nothing. -/
structure LastSetUp (history : List Change) (origin : Origin) (since : List Change) : Prop where
  exists_eq : ∃ earlier, history = earlier ++ .setUp origin :: since
  succeeded : ∃ start, origin.table = .ok start
  refused : ∀ other, .setUp other ∈ since → ∃ fault, other.table = .error fault

/-- The name was there when the table was set up or was inserted since, and it was not removed after
that. -/
inductive Present (origin : Origin) (since : List Change) (name : String) : Prop
  | kept {entry : KeyEntry} (hentry : origin.Holds name entry) (hkept : .remove name ∉ since)
  | inserted {before after : List Change} {rule : Rule}
      (hsince : since = before ++ .insert name rule :: after) (hkept : .remove name ∉ after)

/-- The entry is the latest of the name: the table was set up with it or it was inserted since, and
the name was neither inserted nor removed after that. -/
inductive Latest (origin : Origin) (since : List Change) (name : String) : KeyEntry → Prop
  | kept {entry : KeyEntry} (hentry : origin.Holds name entry)
      (huntouched : ∀ change ∈ since, ¬ change.Touches name) : Latest origin since name entry
  | inserted {before after : List Change} {rule : Rule}
      (hsince : since = before ++ .insert name rule :: after)
      (huntouched : ∀ change ∈ after, ¬ change.Touches name) :
      Latest origin since name ⟨rule, .custom⟩

/-- All that a table tells is told by its last set-up and the changes since. -/
structure Reflects (table : KeyTable) (origin : Origin) (since : List Change) : Prop where
  contains_iff : ∀ name, table.contains name = true ↔ Present origin since name
  rule?_eq_some_iff : ∀ name rule, table.rule? name = some rule ↔
    ∃ source, Latest origin since name ⟨rule, source⟩
  source?_eq_some_iff : ∀ name source, table.source? name = some source ↔
    ∃ rule, Latest origin since name ⟨rule, source⟩
  insert_answer : ∀ name rule, ∃ present, (table.change (.insert name rule)).2 = .found present ∧
    (present = true ↔ Present origin since name)
  remove_answer : ∀ name, ∃ present, (table.change (.remove name)).2 = .found present ∧
    (present = true ↔ Present origin since name)
  mem_names_iff : ∀ name, name ∈ table.names ↔ Present origin since name
  names_ascending : table.names.Pairwise (· < ·)
  names_nodup : table.names.Nodup
  length_names : table.names.length = table.size
  unknownKey_of_compile : ∀ tree key known,
    table.compile tree = .error (.unknownKey key known) →
      ¬ Present origin since key ∧ known = table.names
  unknownKey_of_compileQuery : ∀ maxDepth query key known,
    (⟨table, maxDepth⟩ : Compiler).compileQuery query = .error (.unknownKey key known) →
      ¬ Present origin since key ∧ known = table.names

variable {origin last : Origin} {history since : List Change} {change : Change} {table : KeyTable}
  {name key query : String} {entry : KeyEntry} {rule : Rule} {known : List String}

/-! ## Setting up -/

theorem get?_builtin_eq_some_iff :
    builtin.get? name = some entry ↔ Origin.builtin.Holds name entry := by
  rw [get?_builtin]
  constructor
  · intro hget
    split at hget
    · next huntil =>
      cases hget
      exact huntil ▸ .until
    · split at hget
      · next hsince =>
        cases hget
        exact hsince ▸ .since
      · cases hget
  · intro hholds
    cases hholds <;> rfl

/-- A table that is set up holds what it is set up from, and nothing else. -/
theorem get?_table_eq_some_iff (htable : origin.table = .ok table) :
    table.get? name = some entry ↔ origin.Holds name entry := by
  cases origin with
  | empty =>
    cases htable
    rw [NameMap.get?_empty]
    constructor <;> intro h <;> cases h
  | builtin =>
    cases htable
    exact get?_builtin_eq_some_iff
  | configured config =>
    have hconfigure : configure (initial config.settings) config.keys.entries = .ok table := htable
    by_cases hname : name ∈ config.keys.names
    · obtain ⟨definition, hdefinition⟩ := NameMap.mem_names_iff_exists_get?.1 hname
      obtain ⟨rule, hrule, hget⟩ := get?_configure_of_mem hconfigure config.keys.ascending
        (NameMap.get?_eq_some_iff.1 hdefinition)
      rw [hget]
      constructor
      · rintro ⟨⟩
        exact .configured hdefinition hrule
      · intro hholds
        cases hholds with
        | @configured _ _ other otherRule hother hotherRule =>
          rw [hdefinition] at hother
          cases hother
          rw [hrule.unique hotherRule]
        | kept _ hmissing => exact absurd hname hmissing
    · rw [get?_configure_of_not_mem hconfigure hname, initial]
      split
      · next hswitch =>
        rw [get?_builtin_eq_some_iff]
        refine ⟨.kept hswitch hname, fun hholds => ?_⟩
        cases hholds with
        | configured hget =>
          exact absurd (NameMap.mem_names_iff_exists_get?.2 ⟨_, hget⟩) hname
        | kept _ _ hbuiltin => exact hbuiltin
      · next hswitch =>
        rw [NameMap.get?_empty]
        constructor
        · intro habsent
          cases habsent
        · intro hholds
          cases hholds with
          | configured hget =>
            exact absurd (NameMap.mem_names_iff_exists_get?.2 ⟨_, hget⟩) hname
          | kept hon => exact absurd hon hswitch

/-! ## One more change -/

theorem concat_eq_append_cons_iff {α : Type} {items before after : List α} {last item : α} :
    items ++ [last] = before ++ item :: after ↔
      items = before ∧ last = item ∧ after = [] ∨
        ∃ rest, items = before ++ item :: rest ∧ after = rest ++ [last] := by
  constructor
  · intro heq
    rcases List.eq_nil_or_concat after with rfl | ⟨rest, final, rfl⟩
    · obtain ⟨hitems, hlast⟩ := List.append_inj' heq rfl
      exact .inl ⟨hitems, List.singleton_inj.1 hlast, rfl⟩
    · rw [List.concat_eq_append, ← List.cons_append, ← List.append_assoc] at heq
      obtain ⟨hitems, hlast⟩ := List.append_inj' heq rfl
      exact .inr ⟨rest, hitems, by rw [List.concat_eq_append, hlast]⟩
  · rintro (⟨rfl, rfl, rfl⟩ | ⟨rest, rfl, rfl⟩)
    · rfl
    · rw [← List.cons_append, List.append_assoc]

theorem latest_nil_iff : Latest origin [] name entry ↔ origin.Holds name entry := by
  constructor
  · intro hlatest
    cases hlatest with
    | kept hentry => exact hentry
    | inserted hsince => exact absurd hsince (by simp)
  · intro hentry
    exact .kept hentry (by simp)

theorem latest_concat_iff :
    Latest origin (since ++ [change]) name entry ↔
      (∃ rule, change = .insert name rule ∧ entry = ⟨rule, .custom⟩) ∨
        ¬ change.Touches name ∧ Latest origin since name entry := by
  constructor
  · intro hlatest
    cases hlatest with
    | kept hentry huntouched =>
      obtain ⟨hsince, hchange⟩ := List.forall_mem_append.1 huntouched
      exact .inr ⟨hchange change List.mem_cons_self, .kept hentry hsince⟩
    | inserted hsince huntouched =>
      rcases concat_eq_append_cons_iff.1 hsince with ⟨_, hchange, _⟩ | ⟨rest, hrest, rfl⟩
      · exact .inl ⟨_, hchange, rfl⟩
      · obtain ⟨hafter, hchange⟩ := List.forall_mem_append.1 huntouched
        exact .inr ⟨hchange change List.mem_cons_self, .inserted hrest hafter⟩
  · rintro (⟨rule, rfl, rfl⟩ | ⟨hchange, hlatest⟩)
    · exact .inserted rfl (by simp)
    · have hlast : ∀ other ∈ [change], ¬ other.Touches name := by simpa using hchange
      cases hlatest with
      | kept hentry huntouched =>
        exact .kept hentry (List.forall_mem_append.2 ⟨huntouched, hlast⟩)
      | @inserted before after rule hsince huntouched =>
        have hmore : since ++ [change] = before ++ .insert name rule :: (after ++ [change]) := by
          rw [hsince, List.append_assoc, List.cons_append]
        exact .inserted hmore (List.forall_mem_append.2 ⟨huntouched, hlast⟩)

theorem present_concat_iff :
    Present origin (since ++ [change]) name ↔
      (∃ rule, change = .insert name rule) ∨
        change ≠ .remove name ∧ Present origin since name := by
  constructor
  · rintro (⟨hentry, hkept⟩ | ⟨hsince, hkept⟩)
    · rw [List.mem_append, not_or, List.mem_singleton] at hkept
      exact .inr ⟨Ne.symm hkept.2, .kept hentry hkept.1⟩
    · rcases concat_eq_append_cons_iff.1 hsince with ⟨_, hchange, _⟩ | ⟨rest, hrest, rfl⟩
      · exact .inl ⟨_, hchange⟩
      · rw [List.mem_append, not_or, List.mem_singleton] at hkept
        exact .inr ⟨Ne.symm hkept.2, .inserted hrest hkept.1⟩
  · rintro (⟨rule, rfl⟩ | ⟨hchange, hpresent⟩)
    · exact .inserted rfl (by simp)
    · cases hpresent with
      | kept hentry hkept =>
        exact .kept hentry (by simpa [hkept] using Ne.symm hchange)
      | @inserted before after rule hsince hkept =>
        have hmore : since ++ [change] = before ++ .insert name rule :: (after ++ [change]) := by
          rw [hsince, List.append_assoc, List.cons_append]
        exact .inserted hmore (by simpa [hkept] using Ne.symm hchange)

/-- A name is there exactly if it has a latest entry. -/
theorem present_iff_exists_latest :
    Present origin since name ↔ ∃ entry, Latest origin since name entry := by
  induction since using List.reverseRecOn with
  | nil =>
    simp only [latest_nil_iff]
    constructor
    · rintro (⟨hentry, _⟩ | ⟨hsince, _⟩)
      · exact ⟨_, hentry⟩
      · exact absurd hsince (by simp)
    · rintro ⟨entry, hentry⟩
      exact .kept hentry (by simp)
  | append_singleton since change ih =>
    simp only [latest_concat_iff, present_concat_iff, ih]
    cases change with
    | setUp other => simp [Change.Touches]
    | insert other rule =>
      by_cases hname : other = name <;> simp [Change.Touches, hname]
    | remove other => simp [Change.Touches]

/-- A table holds the latest entries. -/
def Tracks (table : KeyTable) (origin : Origin) (since : List Change) : Prop :=
  ∀ name entry, table.get? name = some entry ↔ Latest origin since name entry

theorem tracks_table (htable : origin.table = .ok table) : table.Tracks origin [] := by
  intro name entry
  rw [latest_nil_iff]
  exact get?_table_eq_some_iff htable

/-- A change that sets up nothing is one more change since the last set-up. -/
theorem Tracks.extend (htracks : table.Tracks origin since)
    (hrefused : ∀ other, change = .setUp other → ∃ fault, other.table = .error fault) :
    (table.change change).1.Tracks origin (since ++ [change]) := by
  intro name entry
  rw [latest_concat_iff, ← htracks name entry]
  cases change with
  | setUp other =>
    obtain ⟨fault, hfault⟩ := hrefused other rfl
    simp [KeyTable.change, hfault, Change.Touches]
  | insert other rule =>
    have hget : (table.change (.insert other rule)).1.get? name =
        if name = other then some ⟨rule, .custom⟩ else table.get? name :=
      NameMap.get?_insert ..
    rw [hget]
    by_cases hname : name = other
    · simp [Change.Touches, hname, eq_comm]
    · simp [Change.Touches, hname, Ne.symm hname]
  | remove other =>
    have hget : (table.change (.remove other)).1.get? name =
        if name = other then none else table.get? name :=
      NameMap.get?_erase ..
    rw [hget]
    by_cases hname : name = other
    · simp [Change.Touches, hname]
    · simp [Change.Touches, hname, Ne.symm hname]

/-! ## Whole histories -/

theorem changes_concat (table : KeyTable) (history : List Change) (change : Change) :
    table.changes (history ++ [change]) = ((table.changes history).change change).1 := by
  rw [changes, List.foldl_append]
  rfl

/-- A change that sets up nothing leaves the last set-up where it was. -/
theorem LastSetUp.extend (hlast : LastSetUp history last since)
    (hrefused : ∀ other, change = .setUp other → ∃ fault, other.table = .error fault) :
    LastSetUp (history ++ [change]) last (since ++ [change]) := by
  obtain ⟨⟨earlier, heq⟩, hsucceeded, hsince⟩ := hlast
  refine ⟨⟨earlier, ?_⟩, hsucceeded, fun other hother => ?_⟩
  · rw [heq, List.append_assoc, List.cons_append]
  · rcases List.mem_append.1 hother with hold | hnew
    · exact hsince other hold
    · exact hrefused other (List.mem_singleton.1 hnew).symm

theorem lastSetUp_concat {start : KeyTable} (hstart : origin.table = .ok start)
    (history : List Change) : LastSetUp (history ++ [.setUp origin]) origin [] :=
  ⟨⟨history, rfl⟩, ⟨start, hstart⟩, by simp⟩

/-- What a whole run keeps: the table holds the latest entries since the last set-up. -/
theorem exists_tracks_changes {start : KeyTable} (hstart : origin.table = .ok start)
    (history : List Change) :
    ∃ last since, LastSetUp (.setUp origin :: history) last since ∧
      (start.changes history).Tracks last since := by
  induction history using List.reverseRecOn with
  | nil => exact ⟨origin, [], lastSetUp_concat hstart [], tracks_table hstart⟩
  | append_singleton history change ih =>
    obtain ⟨last, since, hlast, htracks⟩ := ih
    rw [changes_concat, ← List.cons_append]
    by_cases hrefused : ∀ other, change = .setUp other → ∃ fault, other.table = .error fault
    · exact ⟨last, since ++ [change], hlast.extend hrefused, htracks.extend hrefused⟩
    · -- The change sets the table up anew.
      push Not at hrefused
      obtain ⟨other, rfl, hother⟩ := hrefused
      cases htable : other.table with
      | error fault => exact absurd htable (hother fault)
      | ok replaced =>
        have hchange : ((start.changes history).change (.setUp other)).1 = replaced := by
          rw [change, htable]
        exact ⟨other, [], lastSetUp_concat htable _, hchange ▸ tracks_table htable⟩

/-! ## What a table tells -/

theorem Tracks.contains_iff (htracks : table.Tracks origin since) (name : String) :
    table.contains name = true ↔ Present origin since name := by
  rw [present_iff_exists_latest, NameMap.contains, Option.isSome_iff_exists]
  exact exists_congr fun entry => htracks name entry

theorem known_of_compileLeaf {value : String}
    (hcompile : table.compileLeaf key value = .error (.unknownKey name known)) :
    table.contains name = false ∧ known = table.names := by
  rw [compileLeaf] at hcompile
  cases hrule : table.rule? key with
  | none =>
    rw [hrule] at hcompile
    cases hcompile
    simp_all [rule?, NameMap.contains]
  | some rule =>
    simp only [hrule, Rule.compile] at hcompile
    split at hcompile <;> cases hcompile

theorem known_of_compile {tree : Disjunction}
    (hcompile : table.compile tree = .error (.unknownKey name known)) :
    table.contains name = false ∧ known = table.names := by
  obtain ⟨_, _, _, _, _, hleaf⟩ := first_refused_of_compile hcompile
  exact known_of_compileLeaf hleaf

/-- A query that cannot be read has no unknown key. -/
theorem known_of_compileQuery {maxDepth : Nat}
    (hcompile : (⟨table, maxDepth⟩ : Compiler).compileQuery query =
      .error (.unknownKey name known)) :
    table.contains name = false ∧ known = table.names := by
  rcases bind_eq_error_iff.1 hcompile with hread | ⟨tree, _, htree⟩
  · obtain ⟨before, after, _, hpoints⟩ := exists_pointsAt_of_ofQuery hread
    cases hpoints.offset?_eq
  · exact known_of_compile htree

theorem Tracks.reflects (htracks : table.Tracks origin since) : table.Reflects origin since where
  contains_iff := htracks.contains_iff
  rule?_eq_some_iff name rule := by
    simp only [rule?, Option.map_eq_some_iff, htracks name]
    constructor
    · rintro ⟨entry, hlatest, rfl⟩
      exact ⟨entry.source, hlatest⟩
    · rintro ⟨source, hlatest⟩
      exact ⟨_, hlatest, rfl⟩
  source?_eq_some_iff name source := by
    simp only [source?, Option.map_eq_some_iff, htracks name]
    constructor
    · rintro ⟨entry, hlatest, rfl⟩
      exact ⟨entry.rule, hlatest⟩
    · rintro ⟨rule, hlatest⟩
      exact ⟨_, hlatest, rfl⟩
  insert_answer name rule := ⟨table.contains name, rfl, htracks.contains_iff name⟩
  remove_answer name := ⟨table.contains name, rfl, htracks.contains_iff name⟩
  mem_names_iff name := (table.mem_names_iff name).trans (htracks.contains_iff name)
  names_ascending := table.ascending_names
  names_nodup := table.nodup_names
  length_names := table.length_names
  unknownKey_of_compile tree key known hcompile := by
    obtain ⟨habsent, hknown⟩ := known_of_compile hcompile
    rw [← htracks.contains_iff, habsent]
    exact ⟨Bool.false_ne_true, hknown⟩
  unknownKey_of_compileQuery maxDepth query key known hcompile := by
    obtain ⟨habsent, hknown⟩ := known_of_compileQuery hcompile
    rw [← htracks.contains_iff, habsent]
    exact ⟨Bool.false_ne_true, hknown⟩

/-- Whatever a table has been through, it tells what its last set-up and the changes since tell. -/
theorem reflects_changes {start : KeyTable} (hstart : origin.table = .ok start)
    (history : List Change) :
    ∃ last since, LastSetUp (.setUp origin :: history) last since ∧
      (start.changes history).Reflects last since := by
  obtain ⟨last, since, hlast, htracks⟩ := exists_tracks_changes hstart history
  exact ⟨last, since, hlast, htracks.reflects⟩

/-- Built-in keys are replaced, removed and inserted again, between a configuration that is refused
and one that sets the table up anew. -/
theorem reflects_changes_reinserted :
    let refused : Config :=
      { keys := .ofList [("stars", ⟨.range, "stars", none, true, .integer, "/a/.sift.toml"⟩)] }
    let accepted : Config :=
      { keys := .ofList
          [("until", ⟨.range, "day", some .upper, false, .date, "/b/.sift.toml"⟩)] }
    let history : List Change :=
      [.insert "since" (.term "day" .keyword), .remove "until", .setUp (.configured accepted),
        .remove "since", .setUp (.configured refused), .insert "since" (.dateFrom "day"),
        .remove "stars"]
    Origin.builtin.table = .ok builtin ∧
      ∃ last since, LastSetUp (.setUp .builtin :: history) last since ∧
        (builtin.changes history).Reflects last since := by
  intro refused accepted history
  have hstart : Origin.builtin.table = .ok builtin := rfl
  exact ⟨hstart, reflects_changes hstart history⟩

end FilterQuery.KeyTable

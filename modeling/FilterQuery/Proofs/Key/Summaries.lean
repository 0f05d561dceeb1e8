import FilterQuery.Key.Changes
import FilterQuery.Proofs.Config.Keys
import Mathlib.Data.List.Forall2

/-!
# What listings of keys tell

A listing describes each key by the kind, the field and the text of its filters, without a value to
build one from. For every value that the key takes, the filter is the one described: the word for
the value stands where the value does.
-/

namespace FilterQuery

def Filter.kind : Filter → RuleKind
  | .range _ _ _ => .range
  | .term _ _ => .term

/-- The filter of a value is the described one: the value stands in place of the final word. -/
structure KeySummary.Foretells (summary : KeySummary) (value : String) (filter : Filter) :
    Prop where
  kind_eq : filter.kind = summary.rule
  field_eq : filter.field = summary.field
  display_eq : ∃ front, summary.filter = front ++ " " ++ "value" ∧
    filter.display = front ++ " " ++ value

/-- A listing has the keys of a table, each once and in order, and what it says of them is borne out
by every leaf and every tree that is compiled. -/
structure KeyTable.Truthful (table : KeyTable) (summaries : List KeySummary) : Prop where
  names_ascending : (summaries.map (·.name)).Pairwise (· < ·)
  mem_names_iff : ∀ name, name ∈ summaries.map (·.name) ↔ table.contains name = true
  exists_compile_leaf_iff : ∀ summary ∈ summaries, ∀ value,
    (∃ clause, table.compile (.one (.one (.leaf summary.name value))) = .ok clause) ↔
      summary.value.refusal? value = none
  foretells_leaf : ∀ summary ∈ summaries, ∀ value clause,
    table.compile (.one (.one (.leaf summary.name value))) = .ok clause →
      ∃ filter, clause = .filter filter ∧ summary.Foretells value filter
  exists_compile_iff : ∀ tree : Disjunction, (∃ clause, table.compile tree = .ok clause) ↔
    ∀ leaf ∈ tree.leaves, ∃ summary ∈ summaries, summary.name = leaf.1 ∧
      summary.value.refusal? leaf.2 = none
  foretells_filters : ∀ (tree : Disjunction) clause, table.compile tree = .ok clause →
    List.Forall₂ (fun leaf filter => ∃ summary ∈ summaries, summary.name = leaf.1 ∧
      summary.Foretells leaf.2 filter) tree.leaves clause.filters

/-! ## Descriptions and filters of a rule -/

namespace Rule

/-- What stands between the field of a filter and its value. -/
def mark : Rule → String
  | .range _ side inclusive _ => sign side inclusive
  | .term _ _ => "="

/-- A rule's filter up to the value. -/
def phrase (rule : Rule) : String :=
  rule.field ++ " " ++ rule.mark

theorem describe_eq (rule : Rule) : rule.describe = rule.phrase ++ " " ++ "value" := by
  cases rule with
  | range field side inclusive format =>
    simp [describe, phrase, mark, Rule.field, String.append_assoc]
  | term field format => simp [describe, phrase, mark, Rule.field, String.append_assoc]

/-- The signs of filters are those of descriptions. -/
theorem display_filter (rule : Rule) (value : String) :
    (rule.filter value).display = rule.phrase ++ " " ++ value := by
  cases rule with
  | range field side inclusive format =>
    cases side <;> cases inclusive <;>
      simp [filter, Filter.display, Filter.lowerSign, Filter.upperSign, phrase, mark, sign,
        Rule.field, String.append_assoc]
  | term field format =>
    simp [filter, Filter.display, phrase, mark, Rule.field, String.append_assoc]

theorem kind_filter (rule : Rule) (value : String) : (rule.filter value).kind = rule.kind := by
  cases rule with
  | range field side inclusive format => cases side <;> rfl
  | term field format => rfl

theorem field_filter (rule : Rule) (value : String) : (rule.filter value).field = rule.field := by
  cases rule with
  | range field side inclusive format => cases side <;> rfl
  | term field format => rfl

end Rule

theorem KeyTable.foretells_summary (name : String) (entry : KeyEntry) (value : String) :
    (summary name entry).Foretells value (entry.rule.filter value) where
  kind_eq := entry.rule.kind_filter value
  field_eq := entry.rule.field_filter value
  display_eq := ⟨entry.rule.phrase, entry.rule.describe_eq, entry.rule.display_filter value⟩

namespace KeyTable

variable {table : KeyTable} {name key value : String} {rule : Rule} {filter : Filter}

/-! ## Listings and tables -/

theorem map_name_summaries (table : KeyTable) :
    table.summaries.map (·.name) = table.names := by
  rw [summaries, List.map_map]
  rfl

theorem mem_summaries_iff {listed : KeySummary} :
    listed ∈ table.summaries ↔
      ∃ entry, table.get? listed.name = some entry ∧ listed = summary listed.name entry := by
  simp only [NameMap.get?_eq_some_iff]
  constructor
  · intro hlisted
    obtain ⟨⟨name, entry⟩, hentry, rfl⟩ := List.mem_map.1 hlisted
    exact ⟨entry, hentry, rfl⟩
  · rintro ⟨entry, hentry, hlisted⟩
    exact List.mem_map.2 ⟨_, hentry, hlisted.symm⟩

/-- A name is listed once. -/
theorem eq_of_mem_summaries {listed other : KeySummary} (hlisted : listed ∈ table.summaries)
    (hother : other ∈ table.summaries) (hname : listed.name = other.name) : listed = other := by
  obtain ⟨entry, hentry, hsummary⟩ := mem_summaries_iff.1 hlisted
  obtain ⟨otherEntry, hotherEntry, hotherSummary⟩ := mem_summaries_iff.1 hother
  rw [hname, hotherEntry] at hentry
  cases hentry
  rw [hsummary, hotherSummary, hname]

/-! ## Listings and leaves -/

/-- A table takes a leaf exactly if it lists the key with a format that takes the value. -/
theorem accepts_iff_listed {leaf : String × String} :
    table.Accepts leaf ↔
      ∃ listed ∈ table.summaries, listed.name = leaf.1 ∧ listed.value.refusal? leaf.2 = none := by
  constructor
  · rintro ⟨rule, hrule, haccepts⟩
    obtain ⟨entry, hentry, rfl⟩ := Option.map_eq_some_iff.1 hrule
    exact ⟨summary leaf.1 entry, mem_summaries_iff.2 ⟨entry, hentry, rfl⟩, rfl, haccepts⟩
  · rintro ⟨listed, hlisted, hname, haccepts⟩
    obtain ⟨entry, hentry, hsummary⟩ := mem_summaries_iff.1 hlisted
    rw [hsummary] at haccepts
    rw [hname] at hentry
    exact ⟨entry.rule, Option.map_eq_some_iff.2 ⟨entry, hentry, rfl⟩, haccepts⟩

theorem accepts_listed_iff {listed : KeySummary} (hlisted : listed ∈ table.summaries) :
    table.Accepts (listed.name, value) ↔ listed.value.refusal? value = none := by
  rw [accepts_iff_listed]
  constructor
  · rintro ⟨other, hother, hname, haccepts⟩
    rwa [eq_of_mem_summaries hlisted hother hname.symm]
  · intro haccepts
    exact ⟨listed, hlisted, rfl, haccepts⟩

theorem foretells_of_compileLeaf (hcompile : table.compileLeaf key value = .ok filter) :
    ∃ listed ∈ table.summaries, listed.name = key ∧ listed.Foretells value filter := by
  obtain ⟨rule, hrule, _, rfl⟩ := compileLeaf_eq_ok_iff.1 hcompile
  obtain ⟨entry, hentry, rfl⟩ := Option.map_eq_some_iff.1 hrule
  exact ⟨summary key entry, mem_summaries_iff.2 ⟨entry, hentry, rfl⟩, rfl,
    foretells_summary key entry value⟩

/-- A single leaf leaves nothing but its filter. -/
theorem compile_leaf_eq_ok_iff {clause : Clause} :
    table.compile (.one (.one (.leaf key value))) = .ok clause ↔
      ∃ filter, table.compileLeaf key value = .ok filter ∧ .filter filter = clause := by
  simp [compile_eq_ok_iff, compileOperands_one_eq_ok_iff, compileTerms_one_eq_ok_iff,
    compileTerm_leaf_eq_ok_iff]

/-- What a table lists is true of it. -/
theorem truthful_summaries (table : KeyTable) : table.Truthful table.summaries where
  names_ascending := by
    rw [map_name_summaries]
    exact table.ascending_names
  mem_names_iff name := by
    rw [map_name_summaries]
    exact table.mem_names_iff name
  exists_compile_leaf_iff listed hlisted value := by
    rw [exists_compile_iff, ← accepts_listed_iff hlisted]
    exact List.forall_mem_singleton
  foretells_leaf listed hlisted value clause hcompile := by
    obtain ⟨filter, hfilter, rfl⟩ := compile_leaf_eq_ok_iff.1 hcompile
    obtain ⟨other, hother, hname, hforetells⟩ := foretells_of_compileLeaf hfilter
    rw [eq_of_mem_summaries hlisted hother hname.symm]
    exact ⟨filter, rfl, hforetells⟩
  exists_compile_iff tree := by
    simp only [exists_compile_iff, accepts_iff_listed]
  foretells_filters tree clause hcompile := by
    have hleaves : List.Forall₂ (fun leaf filter => table.compileLeaf leaf.1 leaf.2 = .ok filter)
        tree.leaves clause.filters := by
      rw [← List.forall₂_map_right_iff, ← List.forall₂_map_left_iff, List.forall₂_eq_eq_eq]
      exact map_compileLeaf_of_compile hcompile
    exact hleaves.imp fun leaf filter => foretells_of_compileLeaf

/-! ## Tables of configurations -/

/-- The table after some insertions of rules. -/
def withRules (table : KeyTable) (rules : List (String × Rule)) : KeyTable :=
  table.changes (rules.map fun given => .insert given.1 given.2)

theorem contains_withRules_iff (rules : List (String × Rule)) :
    (table.withRules rules).contains name = true ↔
      name ∈ rules.map (·.1) ∨ table.contains name = true := by
  induction rules generalizing table with
  | nil => simp [withRules, changes]
  | cons given rest ih =>
    have hfirst : table.withRules (given :: rest) =
        KeyTable.withRules (table.insert given.1 ⟨given.2, .custom⟩) rest := rfl
    rw [hfirst, ih, NameMap.contains, NameMap.get?_insert]
    by_cases hname : name = given.1 <;> simp [hname, NameMap.contains]

/-- Whatever configuration a table is of and whatever rules are inserted after that, its listing has
all keys and is true of what they compile to. -/
theorem listing_truthful {config : Config} {start : KeyTable}
    (hconfig : ofConfig config = .ok start) (rules : List (String × Rule)) :
    (start.withRules rules).Truthful (start.withRules rules).summaries ∧
      ∀ name, name ∈ (start.withRules rules).summaries.map (·.name) ↔
        name ∈ rules.map (·.1) ∨ name ∈ config.keys.names ∨
          config.settings.builtinKeys = true ∧ (name = "since" ∨ name = "until") := by
  refine ⟨truthful_summaries _, fun name => ?_⟩
  rw [(truthful_summaries _).mem_names_iff, contains_withRules_iff, ← NameMap.mem_names_iff,
    (tableOf_ofConfig hconfig).mem_names]

/-- A configured key over a built-in one, with a field that ends like a description, and inserted
keys over both. -/
theorem listing_truthful_overridden :
    let config : Config :=
      { keys := .ofList
          [("since", ⟨.range, "a > value", some .lower, false, .integer, "/a/.sift.toml"⟩)] }
    let start : KeyTable :=
      builtin.insert "since" ⟨.range "a > value" .lower false .integer, .file "/a/.sift.toml"⟩
    let rules : List (String × Rule) :=
      [("until", .range "b value" .upper false .keyword), ("author", .term "= value" .keyword)]
    ofConfig config = .ok start ∧
      (start.withRules rules).Truthful (start.withRules rules).summaries ∧
        ∀ name, name ∈ (start.withRules rules).summaries.map (·.name) ↔
          name ∈ rules.map (·.1) ∨ name ∈ config.keys.names ∨
            config.settings.builtinKeys = true ∧ (name = "since" ∨ name = "until") := by
  intro config start rules
  have hconfig : ofConfig config = .ok start := by decide
  exact ⟨hconfig, listing_truthful hconfig rules⟩

end KeyTable

end FilterQuery

import FilterQuery.Config.Keys
import FilterQuery.Proofs.Compiler.Leaves
import FilterQuery.Proofs.Config.Merging
import FilterQuery.Proofs.Query.NestingLimit

/-!
# Key tables of merged configurations

Merging has checked all that a key table asks for: limits are in range and ranges have a bound. So
there always is a table, which holds the configured keys over the built-in ones, and the limit in
force is the configured one.
-/

namespace FilterQuery

/-- The rule is the one a definition describes. A range bounds its field at one end; a term looks at
its field and format alone. -/
inductive KeyDefinition.Describes (definition : KeyDefinition) : Rule → Prop
  | range {side : BoundSide} (hrule : definition.rule = .range)
      (hbound : definition.bound = some side) :
      Describes definition
        (.range definition.field side definition.inclusive definition.value)
  | term (hrule : definition.rule = .term) :
      Describes definition (.term definition.field definition.value)

/-- The limits that a configuration may set, and the bounds that its ranges must have. -/
structure Config.Usable (config : Config) : Prop where
  one_le_maxDepth : 1 ≤ config.settings.maxDepth
  maxDepth_le : config.settings.maxDepth ≤ 128
  isSome_bound : ∀ name definition, config.keys.get? name = some definition →
    definition.rule = .range → definition.bound.isSome = true

/-- What the key table of a configuration holds. -/
structure KeyTable.TableOf (config : Config) (table : KeyTable) : Prop where
  mem_names : ∀ name, name ∈ table.names ↔
    name ∈ config.keys.names ∨
      config.settings.builtinKeys = true ∧ (name = "since" ∨ name = "until")
  configured : ∀ name definition, config.keys.get? name = some definition →
    ∃ rule, definition.Describes rule ∧ table.get? name = some ⟨rule, .file definition.source⟩
  since_eq : config.settings.builtinKeys = true → "since" ∉ config.keys.names →
    table.get? "since" = some ⟨.range "createdAt" .lower true .date, .builtin⟩
  until_eq : config.settings.builtinKeys = true → "until" ∉ config.keys.names →
    table.get? "until" = some ⟨.range "createdAt" .upper true .date, .builtin⟩

/-- A compiler takes the queries of the grammar whose groups nest no deeper than a limit, and names
that limit in the fault of all others. -/
structure Compiler.EnforcesLimit (compiler : Compiler) (limit : Nat) : Prop where
  compile_of_le : ∀ query tokens (tree : Disjunction), Token.scan query = .ok tokens →
    tree.DerivedFrom tokens → tree.depth ≤ limit →
      compiler.compileQuery query = compiler.keys.compile tree
  tooDeep_of_lt : ∀ query tokens (tree : Disjunction), Token.scan query = .ok tokens →
    tree.DerivedFrom tokens → limit < tree.depth →
      ∃ offset, compiler.compileQuery query = .error (.tooDeep offset limit)
  limit_eq : ∀ query offset found,
    compiler.compileQuery query = .error (.tooDeep offset found) → found = limit

/-! ## What merging has checked -/

namespace Config

variable {files : List NamedFile} {config : Config}

theorem maxDepth_of_merge (hmerge : merge files = .ok config) :
    1 ≤ config.settings.maxDepth ∧ config.settings.maxDepth ≤ 128 := by
  obtain ⟨hdepths, heq⟩ := Settings.merge_eq_ok_iff.1 (parts_of_merge hmerge).1
  rw [heq]
  cases hgiven : files.findSome? (·.content.maxDepth?) with
  | none =>
    show 1 ≤ defaultMaxDepth ∧ defaultMaxDepth ≤ 128
    decide
  | some depth =>
    obtain ⟨file, hfile, hdepth⟩ := List.exists_of_findSome?_eq_some hgiven
    have hrange : ¬ (depth = 0 ∨ 128 < depth) := fun hrange =>
      hdepths file hfile ⟨depth, hdepth, hrange⟩
    show 1 ≤ depth ∧ depth ≤ 128
    omega

theorem isSome_bound_of_merge (hmerge : merge files = .ok config) {name : String}
    {definition : KeyDefinition} (hget : config.keys.get? name = some definition)
    (hrule : definition.rule = .range) : definition.bound.isSome = true := by
  obtain ⟨hlacks, hkeys⟩ := get?_of_merge (parts_of_merge hmerge).2 name
  rw [hkeys] at hget
  obtain ⟨⟨file, given⟩, hclosest, rfl⟩ := Option.map_eq_some_iff.1 hget
  by_contra hbound
  exact hlacks ⟨file, given, hclosest, hrule, Option.not_isSome_iff_eq_none.1 hbound⟩

theorem usable_of_merge (hmerge : merge files = .ok config) : config.Usable := by
  obtain ⟨hone, hceiling⟩ := maxDepth_of_merge hmerge
  exact ⟨hone, hceiling, fun _ _ => isSome_bound_of_merge hmerge⟩

/-- The ceiling of nesting limits does not lower a configured one. -/
theorem Usable.nestingLimit_eq (husable : config.Usable) :
    nestingLimit config.settings.maxDepth = config.settings.maxDepth :=
  Nat.min_eq_left husable.maxDepth_le

end Config

/-! ## Configured keys over the table they are put in -/

theorem KeyDefinition.toRule_eq_ok_iff {definition : KeyDefinition} {name : String} {rule : Rule} :
    definition.toRule name = .ok rule ↔ definition.Describes rule := by
  constructor
  · intro hrule
    cases hkind : definition.rule with
    | term =>
      rw [toRule, hkind] at hrule
      cases hrule
      exact .term hkind
    | range =>
      cases hbound : definition.bound with
      | none =>
        rw [toRule, hkind, hbound] at hrule
        cases hrule
      | some side =>
        rw [toRule, hkind, hbound] at hrule
        cases hrule
        exact .range hkind hbound
  · intro hdescribes
    cases hdescribes with
    | range hrule hbound => rw [toRule, hrule, hbound]
    | term hrule => rw [toRule, hrule]

theorem KeyDefinition.Describes.unique {definition : KeyDefinition} {rule other : Rule}
    (hrule : definition.Describes rule) (hother : definition.Describes other) : rule = other := by
  have hsame : definition.toRule "" = .ok rule := toRule_eq_ok_iff.2 hrule
  rw [toRule_eq_ok_iff.2 hother] at hsame
  exact (Except.ok.inj hsame).symm

theorem KeyDefinition.exists_describes {definition : KeyDefinition}
    (hbound : definition.rule = .range → definition.bound.isSome = true) :
    ∃ rule, definition.Describes rule := by
  cases hrule : definition.rule with
  | range =>
    obtain ⟨side, hside⟩ := Option.isSome_iff_exists.1 (hbound hrule)
    exact ⟨_, .range hrule hside⟩
  | term => exact ⟨_, .term hrule⟩

namespace KeyTable

variable {config : Config} {table result : KeyTable} {name : String}
  {definition : KeyDefinition} {entries : List (String × KeyDefinition)}

theorem configure_cons_eq_ok_iff :
    configure table ((name, definition) :: entries) = .ok result ↔
      ∃ rule, definition.Describes rule ∧
        configure (table.insert name ⟨rule, .file definition.source⟩) entries = .ok result := by
  simp only [configure, bind_eq_ok_iff, KeyDefinition.toRule_eq_ok_iff]

theorem exists_configure
    (hbounds : ∀ entry ∈ entries, entry.2.rule = .range → entry.2.bound.isSome = true)
    (table : KeyTable) : ∃ result, configure table entries = .ok result := by
  induction entries generalizing table with
  | nil => exact ⟨table, rfl⟩
  | cons entry rest ih =>
    obtain ⟨hfirst, hrest⟩ := List.forall_mem_cons.1 hbounds
    obtain ⟨rule, hrule⟩ := KeyDefinition.exists_describes hfirst
    obtain ⟨result, hresult⟩ := ih hrest (table.insert entry.1 ⟨rule, .file entry.2.source⟩)
    exact ⟨result, configure_cons_eq_ok_iff.2 ⟨rule, hrule, hresult⟩⟩

theorem get?_configure_of_not_mem (hconfigure : configure table entries = .ok result)
    (hname : name ∉ entries.map (·.1)) : result.get? name = table.get? name := by
  induction entries generalizing table with
  | nil =>
    cases hconfigure
    rfl
  | cons entry rest ih =>
    obtain ⟨rule, _, hrest⟩ := configure_cons_eq_ok_iff.1 hconfigure
    rw [List.map_cons, List.mem_cons, not_or] at hname
    rw [ih hrest hname.2, NameMap.get?_insert, if_neg hname.1]

theorem get?_configure_of_mem (hconfigure : configure table entries = .ok result)
    (hascending : entries.Pairwise fun left right => left.1 < right.1)
    (hmem : (name, definition) ∈ entries) :
    ∃ rule, definition.Describes rule ∧
      result.get? name = some ⟨rule, .file definition.source⟩ := by
  induction entries generalizing table with
  | nil => cases hmem
  | cons entry rest ih =>
    obtain ⟨rule, hrule, hrest⟩ := configure_cons_eq_ok_iff.1 hconfigure
    obtain ⟨hfirst, hascendingRest⟩ := List.pairwise_cons.1 hascending
    rcases List.mem_cons.1 hmem with rfl | hold
    · -- No later entry has the name again.
      have hlast : name ∉ rest.map (·.1) := by
        intro hagain
        obtain ⟨other, hother, heq⟩ := List.mem_map.1 hagain
        exact String.lt_irrefl name (heq ▸ hfirst other hother)
      refine ⟨rule, hrule, ?_⟩
      rw [get?_configure_of_not_mem hrest hlast, NameMap.get?_insert, if_pos rfl]
    · exact ih hrest hascendingRest hold

theorem get?_builtin (name : String) :
    builtin.get? name =
      if name = "until" then some ⟨.range "createdAt" .upper true .date, .builtin⟩
      else if name = "since" then some ⟨.range "createdAt" .lower true .date, .builtin⟩
      else none := by
  simp only [builtin, NameMap.ofList, List.foldl_cons, List.foldl_nil, NameMap.get?_insert,
    NameMap.get?_empty, Rule.dateFrom, Rule.dateUntil, createdAt]

theorem mem_names_initial_iff (settings : Settings) (name : String) :
    name ∈ (initial settings).names ↔
      settings.builtinKeys = true ∧ (name = "since" ∨ name = "until") := by
  rw [NameMap.mem_names_iff, NameMap.contains, initial]
  cases settings.builtinKeys with
  | false => simp
  | true =>
    rw [if_pos rfl, get?_builtin]
    by_cases huntil : name = "until"
    · simp [huntil]
    · by_cases hsince : name = "since" <;> simp [huntil, hsince]

/-- A configuration whose ranges have bounds has a key table. -/
theorem exists_ofConfig (husable : config.Usable) : ∃ table, ofConfig config = .ok table := by
  apply exists_configure
  rintro ⟨name, definition⟩ hentry
  exact husable.isSome_bound name definition (NameMap.get?_eq_some_iff.2 hentry)

theorem tableOf_ofConfig (hconfig : ofConfig config = .ok table) : TableOf config table := by
  have hconfigured (name : String) (definition : KeyDefinition)
      (hget : config.keys.get? name = some definition) :
      ∃ rule, definition.Describes rule ∧
        table.get? name = some ⟨rule, .file definition.source⟩ :=
    get?_configure_of_mem hconfig config.keys.ascending (NameMap.get?_eq_some_iff.1 hget)
  have hothers (name : String) (hname : name ∉ config.keys.names) :
      table.get? name = (initial config.settings).get? name :=
    get?_configure_of_not_mem hconfig hname
  have hinitial (hbuiltin : config.settings.builtinKeys = true) :
      initial config.settings = builtin := by
    rw [initial, if_pos hbuiltin]
  refine ⟨fun name => ?_, hconfigured, fun hbuiltin hname => ?_, fun hbuiltin hname => ?_⟩
  · rw [← mem_names_initial_iff, NameMap.mem_names_iff, NameMap.contains]
    by_cases hname : name ∈ config.keys.names
    · rw [NameMap.mem_names_iff, NameMap.contains] at hname
      obtain ⟨definition, hget⟩ := Option.isSome_iff_exists.1 hname
      obtain ⟨rule, _, hrule⟩ := hconfigured name definition hget
      simp [hrule, NameMap.mem_names_iff, NameMap.contains, hget]
    · rw [hothers name hname, or_iff_right hname, NameMap.mem_names_iff, NameMap.contains]
  · rw [hothers _ hname, hinitial hbuiltin, get?_builtin]
    rfl
  · rw [hothers _ hname, hinitial hbuiltin, get?_builtin]
    rfl

/-- Compiling has no fault of nesting. -/
theorem not_tooDeep_of_compile {tree : Disjunction} {offset limit : Nat} :
    table.compile tree ≠ .error (.tooDeep offset limit) := by
  intro hcompile
  obtain ⟨before, leaf, after, _, _, hfault⟩ := first_refused_of_compile hcompile
  cases refuses_of_compileLeaf hfault

end KeyTable

/-! ## Compilers of configurations -/

theorem Compiler.enforcesLimit (compiler : Compiler) :
    compiler.EnforcesLimit (nestingLimit compiler.maxDepth) := by
  refine ⟨?_, ?_, ?_⟩
  · intro query tokens tree hscan hderived hdepth
    have hread := Disjunction.ofQuery_eq_ok_iff.2 ⟨tokens, hscan, hderived, hdepth⟩
    rw [compileQuery, hread]
    rfl
  · intro query tokens tree hscan hderived hdepth
    obtain ⟨offset, hdeep⟩ :=
      Disjunction.exists_tooDeep_of_derivedFrom hderived hdepth query.utf8ByteSize
    have hread : Disjunction.ofQuery compiler.maxDepth query =
        .error (.tooDeep offset (nestingLimit compiler.maxDepth)) := by
      rw [Disjunction.ofQuery, hscan]
      exact hdeep
    rw [compileQuery, hread]
    exact ⟨offset, rfl⟩
  · intro query offset found hcompile
    rcases bind_eq_error_iff.1 hcompile with hread | ⟨tree, _, hcompileTree⟩
    · exact Disjunction.limit_of_ofQuery hread
    · exact absurd hcompileTree KeyTable.not_tooDeep_of_compile

theorem Config.Usable.exists_ofConfig {config : Config} (husable : config.Usable) :
    ∃ table, KeyTable.ofConfig config = .ok table ∧ KeyTable.TableOf config table ∧
      Compiler.ofConfig config = .ok ⟨table, config.settings.maxDepth⟩ := by
  obtain ⟨table, htable⟩ := KeyTable.exists_ofConfig husable
  refine ⟨table, htable, KeyTable.tableOf_ofConfig htable, ?_⟩
  rw [Compiler.ofConfig, htable]
  rfl

/-- Merged files always give a compiler. Its table holds the configured keys over the built-in ones,
and its limit is the configured one. -/
theorem Config.exists_compiler_of_merge {files : List NamedFile} {config : Config}
    (hmerge : merge files = .ok config) :
    config.Usable ∧
      ∃ table, KeyTable.ofConfig config = .ok table ∧ KeyTable.TableOf config table ∧
        Compiler.ofConfig config = .ok ⟨table, config.settings.maxDepth⟩ ∧
        Compiler.EnforcesLimit ⟨table, config.settings.maxDepth⟩ config.settings.maxDepth := by
  have husable := usable_of_merge hmerge
  obtain ⟨table, htable, hholds, hcompiler⟩ := husable.exists_ofConfig
  have henforces := Compiler.enforcesLimit ⟨table, config.settings.maxDepth⟩
  rw [husable.nestingLimit_eq] at henforces
  exact ⟨husable, table, htable, hholds, hcompiler, henforces⟩

/-- A close file overrides a built-in key and hides a range without a bound, and a farther one sets
the largest limit. -/
theorem Config.exists_compiler_of_merge_overridden :
    let files : List NamedFile :=
      [⟨"/a/b/.sift.toml",
        { keys := some (.ofList
          [("since", { rule := .range, field := "day", bound := some .lower }),
            ("stars", { rule := .term, field := "stars", value := some .integer })]) }⟩,
        ⟨"/a/.sift.toml",
        { settings := some { maxDepth := some 128 }
          keys := some (.ofList [("stars", { rule := .range, field := "stars" })]) }⟩]
    let config : Config :=
      { settings := { maxDepth := 128 }
        keys := .ofList
          [("since", ⟨.range, "day", some .lower, true, .date, "/a/b/.sift.toml"⟩),
            ("stars", ⟨.term, "stars", none, true, .integer, "/a/b/.sift.toml"⟩)]
        root := some "/a/b"
        files := ["/a/b/.sift.toml", "/a/.sift.toml"] }
    merge files = .ok config ∧ config.Usable ∧
      ∃ table, KeyTable.ofConfig config = .ok table ∧ KeyTable.TableOf config table ∧
        Compiler.ofConfig config = .ok ⟨table, config.settings.maxDepth⟩ ∧
        Compiler.EnforcesLimit ⟨table, config.settings.maxDepth⟩ config.settings.maxDepth := by
  intro files config
  have hmerge : merge files = .ok config := by decide
  exact ⟨hmerge, exists_compiler_of_merge hmerge⟩

end FilterQuery

import FilterQuery.Config.Printed
import FilterQuery.Proofs.Config.Keys
import FilterQuery.Proofs.Toml.Lines
import FilterQuery.Proofs.Toml.Tables

/-!
# A configuration is read back from its text

The text of a merged configuration is a file that gives every setting and defines every key in full.
Merging this file alone gives the settings and the keys again, whatever characters the names and the
fields have.
-/

namespace FilterQuery

/-! ## Lines -/

namespace Toml

/-- The line is read as the pair. -/
def ReadsPair (line : String) (pair : String × Value) : Prop :=
  ReadsAs line.toList [.pair [pair.1] pair.2]

theorem readsPair {line name written : String} {item : Value}
    (hline : line = name ++ " = " ++ written) (hne : name.toList ≠ [])
    (hname : name.toList.all isBareKeyChar = true)
    (hwritten : WrittenAs item written.toList) : ReadsPair line (name, item) := by
  have hchars : line.toList = name.toList ++ ' ' :: '=' :: ' ' :: written.toList := by
    rw [hline, String.toList_append, String.toList_append, List.append_assoc]
    rfl
  rw [ReadsPair, hchars]
  exact readsAs_pair hne hname hwritten

/-- A word between double quotes, where nothing in it has to be escaped. -/
theorem readsPair_word {line name word : String}
    (hline : line = name ++ " = \"" ++ word ++ "\"") (hne : name.toList ≠ [])
    (hname : name.toList.all isBareKeyChar = true)
    (hword : writeString word = "\"" ++ word ++ "\"") : ReadsPair line (name, .string word) := by
  have hwritten : line = name ++ " = " ++ writeString word := by
    rw [hline, hword]
    simp [← String.toList_inj]
  exact readsPair hwritten hne hname (writtenAs_string word)

/-- The lines of a section are read as its statements, one each. -/
theorem readsAs_section {header : String} {lines : List String} {path : List String}
    {pairs : Entries} (hheader : ReadsAs header.toList [.header path])
    (hpairs : List.Forall₂ ReadsPair lines pairs) :
    List.Forall₂ ReadsAs ((header :: lines).map String.toList)
      ((sectionStatements path pairs).map ([·])) := by
  refine .cons hheader ?_
  rw [List.map_map, List.forall₂_map_left_iff, List.forall₂_map_right_iff]
  exact hpairs

theorem flatten_singletons (parts : List Statement) : (parts.map ([·])).flatten = parts := by
  rw [← List.flatMap_def, List.flatMap_singleton']

end Toml

open Toml (Entries ReadsAs ReadsPair Statement readsPair readsPair_word sectionStatements
  writeBoolean writeKey writeString)

namespace Settings

/-- The pairs that the settings are written as. -/
def pairs (settings : Settings) : Entries :=
  [("max_depth", .integer settings.maxDepth), ("builtin_keys", .boolean settings.builtinKeys)]

theorem readsAs_header : ReadsAs "[settings]".toList [.header ["settings"]] := by
  have hpath (rest : List Char) : Toml.keyPath Toml.maxNesting ("settings".toList ++ ']' :: rest) =
      some (["settings"], ']' :: rest) :=
    Toml.keyPath_last (Toml.keyPart_bare (by decide) rfl (Toml.forall_head?_cons rfl rest))
      (by simp [Toml.isSpace])
  exact Toml.readsAs_header hpath

theorem readsAs_tomlLines (settings : Settings) :
    List.Forall₂ ReadsAs (settings.tomlLines.map String.toList)
      ((sectionStatements ["settings"] settings.pairs).map ([·])) := by
  have hdepth : ReadsPair ("max_depth = " ++ toString settings.maxDepth)
      ("max_depth", .integer settings.maxDepth) :=
    readsPair rfl (by decide) rfl (Toml.writtenAs_integer settings.maxDepth)
  have hbuiltin : ReadsPair ("builtin_keys = " ++ writeBoolean settings.builtinKeys)
      ("builtin_keys", .boolean settings.builtinKeys) :=
    readsPair rfl (by decide) rfl (Toml.writtenAs_boolean settings.builtinKeys)
  exact Toml.readsAs_section readsAs_header (.cons hdepth (.cons hbuiltin .nil))

theorem nodup_names_pairs (settings : Settings) : settings.pairs.names.Nodup := by
  change ["max_depth", "builtin_keys"].Nodup
  decide

end Settings

namespace KeyDefinition

/-- The pairs that a definition is written as. -/
def pairs (definition : KeyDefinition) : Entries :=
  [("rule", .string definition.rule.name), ("field", .string definition.field)] ++
    (match definition.bound with
      | some side => [("bound", .string side.name)]
      | none => []) ++
    [("inclusive", .boolean definition.inclusive), ("value", .string definition.value.name)]

theorem nodup_names_pairs (definition : KeyDefinition) : definition.pairs.names.Nodup := by
  rw [pairs, Toml.Entries.names]
  cases definition.bound with
  | none =>
    change ["rule", "field", "inclusive", "value"].Nodup
    decide
  | some side =>
    change ["rule", "field", "bound", "inclusive", "value"].Nodup
    decide

theorem readsAs_header (name : String) :
    ReadsAs ("[keys." ++ writeKey name ++ "]").toList [.header ["keys", name]] := by
  have hchars : ("[keys." ++ writeKey name ++ "]").toList =
      '[' :: ("keys".toList ++ '.' :: (writeKey name).toList ++ [']']) := by
    simp
  rw [hchars]
  apply Toml.readsAs_header
  intro rest
  have hend : Toml.isBareKeyChar ']' = false := rfl
  have hpart := Toml.keyPart_writeKey name (Toml.forall_head?_cons hend rest)
  have hname : Toml.keyPath 79 ((writeKey name).toList ++ ']' :: rest) =
      some ([name], ']' :: rest) := by
    rw [Toml.keyPath_last hpart (by simp [Toml.isSpace]), String.ofList_toList]
  rw [← Toml.dropWhile_isSpace_of_keyPart hpart] at hname
  rw [List.append_assoc, List.cons_append]
  exact Toml.keyPath_dot
    (Toml.keyPart_bare (by decide) rfl (Toml.forall_head?_cons rfl _)) hname

theorem readsAs_tomlLines (name : String) (definition : KeyDefinition) :
    List.Forall₂ ReadsAs ((definition.tomlLines name).map String.toList)
      ([] :: (sectionStatements ["keys", name] definition.pairs).map ([·])) := by
  have hrule : ReadsPair ("rule = \"" ++ definition.rule.name ++ "\"")
      ("rule", .string definition.rule.name) := by
    refine readsPair_word rfl (by decide) rfl ?_
    cases definition.rule <;> decide
  have hfield : ReadsPair ("field = " ++ writeString definition.field)
      ("field", .string definition.field) :=
    readsPair rfl (by decide) rfl (Toml.writtenAs_string definition.field)
  have hbound (side : BoundSide) : ReadsPair ("bound = \"" ++ side.name ++ "\"")
      ("bound", .string side.name) := by
    refine readsPair_word rfl (by decide) rfl ?_
    cases side <;> decide
  have hinclusive : ReadsPair ("inclusive = " ++ writeBoolean definition.inclusive)
      ("inclusive", .boolean definition.inclusive) :=
    readsPair rfl (by decide) rfl (Toml.writtenAs_boolean definition.inclusive)
  have hvalue : ReadsPair ("value = \"" ++ definition.value.name ++ "\"")
      ("value", .string definition.value.name) := by
    refine readsPair_word rfl (by decide) rfl ?_
    cases definition.value <;> decide
  refine .cons Toml.readsAs_nil (Toml.readsAs_section (readsAs_header name) ?_)
  rw [pairs]
  cases definition.bound with
  | none => exact .cons hrule (.cons hfield (.cons hinclusive (.cons hvalue .nil)))
  | some side =>
    exact .cons hrule (.cons hfield (.cons (hbound side) (.cons hinclusive (.cons hvalue .nil))))

end KeyDefinition

namespace Config

variable {config : Config} {files : List NamedFile}

/-- The statements that a configuration is written as. -/
def statements (config : Config) : List Statement :=
  sectionStatements ["settings"] config.settings.pairs ++
    config.keys.entries.flatMap fun entry => sectionStatements ["keys", entry.1] entry.2.pairs

theorem readsAs_keys (entries : List (String × KeyDefinition)) :
    List.Forall₂ ReadsAs
      ((entries.flatMap fun entry => entry.2.tomlLines entry.1).map String.toList)
      (entries.flatMap fun entry =>
        [] :: (sectionStatements ["keys", entry.1] entry.2.pairs).map ([·])) := by
  induction entries with
  | nil => exact .nil
  | cons entry entries ih =>
    rw [List.flatMap_cons, List.flatMap_cons, List.map_append]
    exact List.rel_append (entry.2.readsAs_tomlLines entry.1) ih

theorem flatten_keys (entries : List (String × KeyDefinition)) :
    (entries.flatMap fun entry =>
      [] :: (sectionStatements ["keys", entry.1] entry.2.pairs).map ([·])).flatten =
        entries.flatMap fun entry => sectionStatements ["keys", entry.1] entry.2.pairs := by
  induction entries with
  | nil => rfl
  | cons entry entries ih =>
    rw [List.flatMap_cons, List.flatMap_cons, List.flatten_append, List.flatten_cons,
      Toml.flatten_singletons, ih, List.nil_append]

/-- The entries of the document that a configuration is written as. -/
def entries (config : Config) : Entries :=
  Toml.withTables [("settings", .table .header config.settings.pairs)] "keys"
    (config.keys.entries.map fun entry => (entry.1, entry.2.pairs))

theorem foldlM_add_settings (settings : Settings) :
    (sectionStatements ["settings"] settings.pairs).foldlM Toml.Draft.add {} =
      some ⟨["settings"], [("settings", .table .header settings.pairs)]⟩ := by
  let frames : List Toml.Entries.Frame := [⟨[], "settings", .header⟩]
  have hfresh : ∀ frame ∈ frames, frame.Fresh := by
    simp [frames, Toml.Entries.Frame.Fresh, Toml.Entries.names]
  exact Toml.foldlM_add_section hfresh settings.nodup_names_pairs rfl

theorem foldlM_add_statements (config : Config) :
    (config.statements.foldlM Toml.Draft.add {}).map (·.entries) = some config.entries := by
  let tables := config.keys.entries.map fun entry => (entry.1, entry.2.pairs)
  have hkeys : (config.keys.entries.flatMap fun entry =>
      sectionStatements ["keys", entry.1] entry.2.pairs) =
        tables.flatMap fun table => sectionStatements ["keys", table.1] table.2 := by
    rw [List.flatMap_map]
  have hnames : (tables.map Prod.fst).Nodup := by
    rw [List.map_map]
    exact config.keys.nodup_names
  have hpairs : ∀ table ∈ tables, (Toml.Entries.names table.2).Nodup := by
    intro table htable
    obtain ⟨entry, _, rfl⟩ := List.mem_map.1 htable
    exact entry.2.nodup_names_pairs
  have hparent : "keys" ∉ Toml.Entries.names
      [("settings", .table .header config.settings.pairs)] := by
    simp [Toml.Entries.names]
  rw [statements, hkeys, List.foldlM_append, foldlM_add_settings, Option.bind_eq_bind,
    Option.bind_some]
  exact Toml.foldlM_add_tables [] hparent hnames hpairs rfl

theorem toml_read?_toToml (config : Config) : Toml.read? config.toToml = some config.entries := by
  let parts : List (List Statement) :=
    (sectionStatements ["settings"] config.settings.pairs).map ([·]) ++
      config.keys.entries.flatMap fun entry =>
        [] :: (sectionStatements ["keys", entry.1] entry.2.pairs).map ([·])
  have hlines : List.Forall₂ ReadsAs ((config.settings.tomlLines ++
      config.keys.entries.flatMap fun entry => entry.2.tomlLines entry.1).map String.toList)
        parts := by
    rw [List.map_append]
    exact List.rel_append config.settings.readsAs_tomlLines (readsAs_keys config.keys.entries)
  have hparts : parts.flatten = config.statements := by
    rw [statements, List.flatten_append, Toml.flatten_singletons, flatten_keys]
  have hmark : config.toToml.toList.head? ≠ some '\uFEFF' := by
    have hhead : config.toToml.toList.head? = some '[' := by
      rw [toToml, Text.toList_unlines]
      rfl
    rw [hhead]
    decide
  rw [toToml, Toml.read?_unlines hlines hmark, hparts, foldlM_add_statements]

end Config

/-! ## The file -/

/-- The section in which a definition is written. -/
def KeyDefinition.toSection (definition : KeyDefinition) : KeySection where
  rule := definition.rule
  field := definition.field
  bound := definition.bound
  inclusive := some definition.inclusive
  value := some definition.value

/-- The file as which a configuration is written. -/
def Config.toFile (config : Config) : ConfigFile where
  settings := some ⟨some config.settings.maxDepth, some config.settings.builtinKeys⟩
  keys := if config.keys.isEmpty then none else some (config.keys.map KeyDefinition.toSection)

theorem ConfigFile.key?_pairs (definition : KeyDefinition) (origin : Toml.Origin) :
    key? (.table origin definition.pairs) = some definition.toSection := by
  have hrule : ruleKind? (.string definition.rule.name) = some definition.rule := by
    cases definition.rule <;> rfl
  have hvalue : valueFormat? (.string definition.value.name) = some definition.value := by
    cases definition.value <;> rfl
  have hside (side : BoundSide) : boundSide? (.string side.name) = some side := by
    cases side <;> rfl
  rw [KeyDefinition.pairs, KeyDefinition.toSection]
  cases definition.bound with
  | none =>
    simp [key?, onlyNames, required, optional, Toml.Entries.get?, text?, boolean?, hrule, hvalue]
  | some side =>
    simp [key?, onlyNames, required, optional, Toml.Entries.get?, text?, boolean?, hrule, hvalue,
      hside]

theorem ConfigFile.keys?_tableEntries (keys : NameMap KeyDefinition) :
    keys? (.table .implicit (Toml.tableEntries (keys.entries.map fun entry =>
      (entry.1, entry.2.pairs)))) = some (keys.map KeyDefinition.toSection) := by
  have hsections (entries : List (String × KeyDefinition)) :
      (Toml.tableEntries (entries.map fun entry => (entry.1, entry.2.pairs))).mapM
          (fun entry => (key? entry.2).map fun key => (entry.1, key)) =
        some (entries.map fun entry => (entry.1, entry.2.toSection)) := by
    induction entries with
    | nil => rfl
    | cons entry entries ih =>
      rw [Toml.tableEntries, List.map_cons, List.map_cons, List.mapM_cons, key?_pairs]
      rw [Toml.tableEntries] at ih
      rw [ih]
      rfl
  rw [keys?, hsections]
  exact congrArg some (NameMap.ofList_entries (keys.map KeyDefinition.toSection))

theorem ConfigFile.settings?_pairs {settings : Settings} (hdepth : settings.maxDepth < UInt64.size)
    (origin : Toml.Origin) : settings? (.table origin settings.pairs) =
      some ⟨some settings.maxDepth, some settings.builtinKeys⟩ := by
  have hnatural : natural? (.integer settings.maxDepth) = some settings.maxDepth := if_pos hdepth
  simp [settings?, Settings.pairs, onlyNames, optional, Toml.Entries.get?, hnatural, boolean?]

namespace Config

variable {config : Config}

theorem read?_toToml (hdepth : config.settings.maxDepth < UInt64.size) :
    ConfigFile.read? config.toToml = some config.toFile := by
  rw [ConfigFile.read?, toml_read?_toToml, Option.bind_eq_bind, Option.bind_some,
    ConfigFile.ofEntries?]
  have hsettings := ConfigFile.settings?_pairs hdepth .header
  have hkeys := ConfigFile.keys?_tableEntries config.keys
  have htables : (config.keys.entries.map fun entry => (entry.1, entry.2.pairs)).isEmpty =
      config.keys.isEmpty := by
    rw [NameMap.isEmpty, List.isEmpty_map]
  rw [entries, Toml.withTables, htables, toFile]
  by_cases hempty : config.keys.isEmpty = true
  · simp [hempty, ConfigFile.onlyNames, ConfigFile.optional, Toml.Entries.get?, hsettings]
  · simp [hempty, ConfigFile.onlyNames, ConfigFile.optional, Toml.Entries.get?, hsettings, hkeys]

theorem definition?_toFile (config : Config) (name : String) :
    config.toFile.definition? name = (config.keys.get? name).map KeyDefinition.toSection := by
  rw [ConfigFile.definition?, toFile]
  by_cases hempty : config.keys.isEmpty = true
  · have hentries : config.keys.entries = [] := List.isEmpty_iff.1 hempty
    rw [if_pos hempty, NameMap.get?, hentries]
    rfl
  · rw [if_neg hempty, Option.bind_some, NameMap.get?_map]

theorem closest?_toFile (config : Config) (path name : String) :
    closest? [⟨path, config.toFile⟩] name =
      (config.keys.get? name).map fun definition =>
        (⟨path, config.toFile⟩, definition.toSection) := by
  rw [closest?, List.findSome?_singleton, definition?_toFile, Option.map_map]
  rfl

/-- The file gives a limit in range, and a bound to every range. -/
theorem Usable.exists_merge_toFile (husable : config.Usable) (path : String) :
    ∃ reread, merge [⟨path, config.toFile⟩] = .ok reread := by
  cases hmerge : merge [⟨path, config.toFile⟩] with
  | ok reread => exact ⟨reread, rfl⟩
  | error fault =>
    rcases exists_fault_iff.1 ⟨fault, hmerge⟩ with ⟨file, hfile, hrange⟩ | ⟨name, hname⟩
    · cases List.mem_singleton.1 hfile
      obtain ⟨depth, hdepth, hout⟩ := hrange
      cases hdepth
      have hlow := husable.one_le_maxDepth
      have hhigh := husable.maxDepth_le
      omega
    · obtain ⟨file, given, hclosest, hrule, hbound⟩ := hname
      rw [closest?_toFile] at hclosest
      obtain ⟨definition, hdefinition, heq⟩ := Option.map_eq_some_iff.1 hclosest
      cases heq
      have hnone : definition.bound = none := hbound
      have hsome := husable.isSome_bound name definition hdefinition hrule
      rw [hnone] at hsome
      cases hsome

/-- Merging the file alone gives the settings and the keys that were written. -/
theorem settings_and_keys_of_merge_toFile {path : String} {reread : Config}
    (hmerge : merge [⟨path, config.toFile⟩] = .ok reread) :
    reread.settings = config.settings ∧
      reread.keys = config.keys.map fun definition => { definition with source := path } := by
  have hmerged := mergedFrom_of_merge hmerge
  constructor
  · have hdepth : reread.settings.maxDepth = config.settings.maxDepth := hmerged.maxDepth_eq
    have hbuiltin : reread.settings.builtinKeys = config.settings.builtinKeys :=
      hmerged.builtinKeys_eq
    calc
      reread.settings = ⟨reread.settings.maxDepth, reread.settings.builtinKeys⟩ := rfl
      _ = ⟨config.settings.maxDepth, config.settings.builtinKeys⟩ := by rw [hdepth, hbuiltin]
      _ = config.settings := rfl
  · ext name
    rw [hmerged.get?_eq, closest?_toFile, NameMap.get?_map, Option.map_map]
    rfl

/-- The text of a merged configuration is a configuration file, and merging this file alone gives
the same settings and the same keys, now from this file. -/
theorem toToml_reads_back {files : List NamedFile} (hmerge : merge files = .ok config)
    (path : String) :
    ∃ file reread, ConfigFile.read? config.toToml = some file ∧
      merge [⟨path, file⟩] = .ok reread ∧ reread.settings = config.settings ∧
        reread.keys = config.keys.map fun definition => { definition with source := path } := by
  have husable := usable_of_merge hmerge
  have hread : ConfigFile.read? config.toToml = some config.toFile := by
    have hbound := husable.maxDepth_le
    apply read?_toToml
    rw [UInt64.size]
    omega
  obtain ⟨reread, hreread⟩ := husable.exists_merge_toFile path
  exact ⟨config.toFile, reread, hread, hreread, settings_and_keys_of_merge_toFile hreread⟩

/-- Names and fields that are empty or hold quotes, backslashes, line breaks and control characters. -/
theorem toToml_reads_back_quoted :
    let files : List NamedFile :=
      [⟨"/a/.sift.toml",
        { settings := some { maxDepth := some 128, builtinKeys := some false }
          keys := some (.ofList
            [("", { rule := .term, field := "" }),
              ("\t\"é\"\\", { rule := .term, field := "'''\n\"\"\"\\", bound := some .upper }),
              ("\x7f'", { rule := .range, field := "\"\"\"\"\n\r\x01", bound := some .lower })]) }⟩]
    let config : Config :=
      { settings := { maxDepth := 128, builtinKeys := false }
        keys := .ofList
          [("", ⟨.term, "", none, true, .keyword, "/a/.sift.toml"⟩),
            ("\t\"é\"\\", ⟨.term, "'''\n\"\"\"\\", some .upper, true, .keyword, "/a/.sift.toml"⟩),
            ("\x7f'", ⟨.range, "\"\"\"\"\n\r\x01", some .lower, true, .date, "/a/.sift.toml"⟩)]
        root := some "/a"
        files := ["/a/.sift.toml"] }
    merge files = .ok config ∧ ∃ file reread, ConfigFile.read? config.toToml = some file ∧
      merge [⟨"/b/.sift.toml", file⟩] = .ok reread ∧ reread.settings = config.settings ∧
        reread.keys =
          config.keys.map fun definition => { definition with source := "/b/.sift.toml" } := by
  intro files config
  have hmerge : merge files = .ok config := by decide
  exact ⟨hmerge, toToml_reads_back hmerge "/b/.sift.toml"⟩

end Config

end FilterQuery

import FilterQuery.Config.Warning
import FilterQuery.Proofs.Config.Keys
import FilterQuery.Proofs.Query.Canonical

/-!
# Which keys a query can name

A configured key is reported as not queryable exactly if no query reads as a tree with that key. If
all keys are of this kind, and no others are there, no query compiles at all; in every other
configuration a single leaf does.
-/

namespace FilterQuery

/-- Some query, under some limit, is read as a tree with a leaf of that key. -/
def InSomeQuery (key : String) : Prop :=
  ∃ query maxDepth tree value,
    Disjunction.ofQuery maxDepth query = .ok tree ∧ (key, value) ∈ tree.leaves

/-! ## Queries of one leaf -/

/-- A key and a value that queries can hold make a query, whatever the limit. -/
theorem Disjunction.ofQuery_leaf {key value : String} (hkey : isKeyShaped key = true)
    (hvalue : isValueShaped value = true) (maxDepth : Nat) :
    ofQuery maxDepth (key ++ ":" ++ value) = .ok (.one (.one (.leaf key value))) := by
  have hleaves : ∀ leaf ∈ (Disjunction.one (.one (.leaf key value))).leaves, LeafShaped leaf := by
    intro leaf hleaf
    rw [List.mem_singleton.1 hleaf]
    exact ⟨hkey, hvalue⟩
  obtain ⟨tokens, hscan, hderived⟩ := exists_scan_canonical hleaves
  exact ofQuery_eq_ok_iff.2 ⟨tokens, hscan, hderived, Nat.zero_le _⟩

theorem inSomeQuery_iff {key : String} : InSomeQuery key ↔ isKeyShaped key = true := by
  constructor
  · rintro ⟨query, maxDepth, tree, value, hread, hleaf⟩
    exact (Disjunction.leafShaped_of_ofQuery hread (key, value) hleaf).1
  · intro hkey
    have hvalue : isValueShaped "x" = true := by decide
    have hread := Disjunction.ofQuery_leaf hkey hvalue 0
    exact ⟨_, 0, _, "x", hread, List.mem_singleton.2 rfl⟩

mutual

theorem Term.leaves_ne_nil (term : Term) : term.leaves ≠ [] := by
  match term with
  | .leaf key value => exact List.cons_ne_nil _ _
  | .group inner => exact Disjunction.leaves_ne_nil inner

theorem Conjunction.leaves_ne_nil (conjunction : Conjunction) : conjunction.leaves ≠ [] := by
  match conjunction with
  | .one term => exact Term.leaves_ne_nil term
  | .and term rest => exact List.append_ne_nil_of_left_ne_nil (Term.leaves_ne_nil term) _

theorem Disjunction.leaves_ne_nil (tree : Disjunction) : tree.leaves ≠ [] := by
  match tree with
  | .one operand => exact Conjunction.leaves_ne_nil operand
  | .or operand rest =>
    exact List.append_ne_nil_of_left_ne_nil (Conjunction.leaves_ne_nil operand) _

end

/-- A year is a date, a whole number and a word. -/
theorem ValueFormat.refusal?_year (format : ValueFormat) : format.refusal? "2020" = none := by
  cases format <;> decide

namespace Compiler

variable {compiler : Compiler} {key : String}

/-- A key that queries can hold and for which there is a rule compiles with some value. -/
theorem exists_compileQuery_leaf (hkey : isKeyShaped key = true)
    (hname : key ∈ compiler.keys.names) :
    ∃ value clause, isValueShaped value = true ∧
      compiler.compileQuery (key ++ ":" ++ value) = .ok clause := by
  obtain ⟨rule, hrule⟩ := KeyTable.mem_names_iff_rule?.1 hname
  have hvalue : isValueShaped "2020" = true := by decide
  have haccepts : ∀ leaf ∈ (Disjunction.one (.one (.leaf key "2020"))).leaves,
      compiler.keys.Accepts leaf := by
    intro leaf hleaf
    rw [List.mem_singleton.1 hleaf]
    exact ⟨rule, hrule, rule.format.refusal?_year⟩
  obtain ⟨clause, hclause⟩ := KeyTable.exists_compile_iff.2 haccepts
  refine ⟨"2020", clause, hvalue, ?_⟩
  rw [compileQuery, Disjunction.ofQuery_leaf hkey hvalue]
  exact hclause

/-- Some query compiles exactly if some key of the table can stand in queries. -/
theorem exists_compileQuery_iff :
    (∃ query clause, compiler.compileQuery query = .ok clause) ↔
      ∃ key ∈ compiler.keys.names, isKeyShaped key = true := by
  constructor
  · rintro ⟨query, clause, hquery⟩
    obtain ⟨tree, hread, hcompile⟩ := bind_eq_ok_iff.1 hquery
    obtain ⟨leaf, hleaf⟩ := List.exists_mem_of_ne_nil _ tree.leaves_ne_nil
    obtain ⟨rule, hrule, _⟩ := KeyTable.exists_compile_iff.1 ⟨clause, hcompile⟩ leaf hleaf
    exact ⟨leaf.1, KeyTable.mem_names_iff_rule?.2 ⟨rule, hrule⟩,
      (Disjunction.leafShaped_of_ofQuery hread leaf hleaf).1⟩
  · rintro ⟨key, hname, hkey⟩
    obtain ⟨value, clause, _, hquery⟩ := exists_compileQuery_leaf hkey hname
    exact ⟨key ++ ":" ++ value, clause, hquery⟩

end Compiler

/-! ## Warnings -/

theorem KeyDefinition.keyNotQueryable_mem_warnings_iff {definition : KeyDefinition}
    {name key : String} :
    .keyNotQueryable key ∈ definition.warnings name ↔ key = name ∧ isKeyShaped name = false := by
  rw [warnings]
  by_cases hkey : isKeyShaped name = true
  · rw [if_pos hkey]
    split <;> split <;> simp [hkey]
  · rw [if_neg hkey]
    split <;> split <;> simp [hkey]

theorem KeyDefinition.noKeysDefined_not_mem_warnings (definition : KeyDefinition)
    (name : String) : .noKeysDefined ∉ definition.warnings name := by
  rw [warnings]
  split <;> split <;> split <;> simp

namespace Config

variable {config : Config} {key : String} {warning : ConfigWarning}

theorem keys_isEmpty_iff : config.keys.isEmpty = true ↔ config.keys.entries = [] :=
  List.isEmpty_iff

/-- Warnings are about single keys, unless there is none at all. -/
theorem mem_warnings_iff :
    warning ∈ config.warnings ↔
      (warning = .noKeysDefined ∧ config.settings.builtinKeys = false ∧
        config.keys.entries = []) ∨
      ∃ entry ∈ config.keys.entries, warning ∈ entry.2.warnings entry.1 := by
  rw [← keys_isEmpty_iff, warnings]
  by_cases hnone : config.settings.builtinKeys = false ∧ config.keys.isEmpty = true
  · simp [hnone, keys_isEmpty_iff.1 hnone.2]
  · have hsome : (!config.settings.builtinKeys && config.keys.isEmpty) = false := by
      simpa using hnone
    simp [hsome, hnone]

theorem noKeysDefined_mem_warnings_iff :
    .noKeysDefined ∈ config.warnings ↔
      config.settings.builtinKeys = false ∧ config.keys.entries = [] := by
  simp [mem_warnings_iff, KeyDefinition.noKeysDefined_not_mem_warnings]

/-- The keys reported as not queryable are those that queries cannot hold. -/
theorem keyNotQueryable_mem_warnings_iff :
    .keyNotQueryable key ∈ config.warnings ↔
      key ∈ config.keys.names ∧ isKeyShaped key = false := by
  rw [mem_warnings_iff, NameMap.names]
  simp only [KeyDefinition.keyNotQueryable_mem_warnings_iff, List.mem_map]
  constructor
  · rintro (⟨hwarning, _⟩ | ⟨entry, hentry, rfl, hkey⟩)
    · cases hwarning
    · exact ⟨⟨entry, hentry, rfl⟩, hkey⟩
  · rintro ⟨⟨entry, hentry, rfl⟩, hkey⟩
    exact .inr ⟨entry, hentry, rfl, hkey⟩

/-- The built-in keys can stand in queries. -/
theorem exists_key_iff {table : KeyTable} (htable : KeyTable.TableOf config table) :
    (∃ key ∈ table.names, isKeyShaped key = true) ↔
      config.settings.builtinKeys = true ∨
        ∃ key ∈ config.keys.names, isKeyShaped key = true := by
  simp only [htable.mem_names]
  constructor
  · rintro ⟨key, hconfigured | ⟨hbuiltin, _⟩, hkey⟩
    · exact .inr ⟨key, hconfigured, hkey⟩
    · exact .inl hbuiltin
  · rintro (hbuiltin | ⟨key, hconfigured, hkey⟩)
    · exact ⟨"since", .inr ⟨hbuiltin, .inl rfl⟩, by decide⟩
    · exact ⟨key, .inl hconfigured, hkey⟩

/-- Without warnings, every key of the table can stand in queries. -/
theorem isKeyShaped_of_warnings_eq_nil {table : KeyTable}
    (htable : KeyTable.TableOf config table) (hwarnings : config.warnings = []) :
    ∀ key ∈ table.names, isKeyShaped key = true := by
  intro key hname
  rcases (htable.mem_names key).1 hname with hconfigured | ⟨_, rfl | rfl⟩
  · by_contra hkey
    have hreported := keyNotQueryable_mem_warnings_iff.2 ⟨hconfigured, Bool.not_eq_true _ ▸ hkey⟩
    rw [hwarnings] at hreported
    cases hreported
  · decide
  · decide

/-- Nothing compiles exactly if the warnings say that there are no keys, or say of all keys that no
query can name them. -/
theorem forall_not_compile_iff {table : KeyTable} (htable : KeyTable.TableOf config table)
    (maxDepth : Nat) :
    (∀ query clause, Compiler.compileQuery ⟨table, maxDepth⟩ query ≠ .ok clause) ↔
      .noKeysDefined ∈ config.warnings ∨
        config.settings.builtinKeys = false ∧
          ∀ key ∈ config.keys.names, .keyNotQueryable key ∈ config.warnings := by
  have hreported : (∀ key ∈ config.keys.names, .keyNotQueryable key ∈ config.warnings) ↔
      ∀ key ∈ config.keys.names, isKeyShaped key = false := by
    refine forall₂_congr fun key hname => ?_
    rw [keyNotQueryable_mem_warnings_iff, and_iff_right hname]
  have hcompiles : (∃ query clause, Compiler.compileQuery ⟨table, maxDepth⟩ query = .ok clause) ↔
      config.settings.builtinKeys = true ∨
        ∃ key ∈ config.keys.names, isKeyShaped key = true :=
    Compiler.exists_compileQuery_iff.trans (exists_key_iff htable)
  rw [hreported, noKeysDefined_mem_warnings_iff]
  calc
    (∀ query clause, Compiler.compileQuery ⟨table, maxDepth⟩ query ≠ .ok clause) ↔
        ¬ ∃ query clause, Compiler.compileQuery ⟨table, maxDepth⟩ query = .ok clause := by
      simp only [not_exists, ne_eq]
    _ ↔ config.settings.builtinKeys = false ∧
        ∀ key ∈ config.keys.names, isKeyShaped key = false := by
      rw [hcompiles]
      simp
    _ ↔ _ := by
      refine ⟨.inr, ?_⟩
      rintro (⟨hbuiltin, hnone⟩ | hunreachable)
      · exact ⟨hbuiltin, by simp [NameMap.names, hnone]⟩
      · exact hunreachable

/-- A configured key is reported as not queryable exactly if no query has it, and no query compiles
exactly if the report leaves no key to name. -/
theorem warnings_tell_queryable {files : List NamedFile} (hmerge : merge files = .ok config) :
    (∀ key ∈ config.keys.names,
      .keyNotQueryable key ∈ config.warnings ↔
        ¬ ∃ query maxDepth tree value,
          Disjunction.ofQuery maxDepth query = .ok tree ∧ (key, value) ∈ tree.leaves) ∧
      ∃ compiler, Compiler.ofConfig config = .ok compiler ∧
        ((∀ query clause, compiler.compileQuery query ≠ .ok clause) ↔
          .noKeysDefined ∈ config.warnings ∨
            config.settings.builtinKeys = false ∧
              ∀ key ∈ config.keys.names, .keyNotQueryable key ∈ config.warnings) := by
  constructor
  · intro key hname
    rw [keyNotQueryable_mem_warnings_iff, and_iff_right hname, ← Bool.not_eq_true,
      ← inSomeQuery_iff, InSomeQuery]
  · obtain ⟨table, _, htable, hcompiler⟩ := (usable_of_merge hmerge).exists_ofConfig
    exact ⟨_, hcompiler, forall_not_compile_iff htable _⟩

/-- Without built-in keys, the keys `OR` and `repo2` are of no use: no query has them, and none
compiles. -/
theorem warnings_tell_queryable_repo2 :
    let files : List NamedFile :=
      [⟨"/a/.sift.toml",
        { settings := some { builtinKeys := some false }
          keys := some (.ofList
            [("OR", { rule := .term, field := "or" }),
              ("repo2", { rule := .term, field := "repo" })]) }⟩]
    let config : Config :=
      { settings := { builtinKeys := false }
        keys := .ofList
          [("OR", ⟨.term, "or", none, true, .keyword, "/a/.sift.toml"⟩),
            ("repo2", ⟨.term, "repo", none, true, .keyword, "/a/.sift.toml"⟩)]
        root := some "/a"
        files := ["/a/.sift.toml"] }
    merge files = .ok config ∧
      (∀ key ∈ ["OR", "repo2"], ¬ ∃ query maxDepth tree value,
        Disjunction.ofQuery maxDepth query = .ok tree ∧ (key, value) ∈ tree.leaves) ∧
        ∃ compiler, Compiler.ofConfig config = .ok compiler ∧
          ∀ query clause, compiler.compileQuery query ≠ .ok clause := by
  intro files config
  have hmerge : merge files = .ok config := by decide
  have hreported : ∀ key ∈ config.keys.names, .keyNotQueryable key ∈ config.warnings := by decide
  obtain ⟨hkeys, compiler, hcompiler, hcompiles⟩ := warnings_tell_queryable hmerge
  refine ⟨hmerge, fun key hkey => ?_, compiler, hcompiler, hcompiles.2 (.inr ⟨rfl, hreported⟩)⟩
  exact (hkeys key hkey).1 (hreported key hkey)

end Config

end FilterQuery

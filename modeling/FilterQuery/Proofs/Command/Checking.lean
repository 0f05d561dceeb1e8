import FilterQuery.Command.Session
import FilterQuery.Proofs.Config.Queryable
import FilterQuery.Proofs.Json
import FilterQuery.Proofs.Terminal.Stripping

/-!
# What a check tells about other commands

A check loads the same configuration as the commands that need one. If it finds nothing to say,
these have a configuration in which every key compiles with some value. If it finds the
configuration faulty, they all fail.
-/

namespace FilterQuery

/-- The commands that cannot do without the configuration of the working directory. -/
inductive Command.NeedsConfig : Command → Prop
  | parse (query : String) (canonical : Bool) : NeedsConfig (.parse query canonical)
  | compile (query : String) (compact explain : Bool) :
      NeedsConfig (.compile query compact explain)
  | keys (json : Bool) : NeedsConfig (.keys json)
  | config : NeedsConfig .config

/-! ## Arguments -/

/-- A leaf is no option, for its key does not start with a hyphen. -/
theorem ArgumentShape.of_leaf {key : String} (hkey : isKeyShaped key = true) (value : String) :
    ArgumentShape.of (key ++ ":" ++ value) = .plain := by
  simp only [isKeyShaped, Bool.and_eq_true, Bool.not_eq_true', List.all_eq_true] at hkey
  obtain ⟨⟨hnonempty, hchars⟩, _⟩ := hkey
  cases hlist : key.toList with
  | nil =>
    rw [String.toList_eq_nil_iff] at hlist
    subst hlist
    cases hnonempty
  | cons c rest =>
    have hhyphen : c ≠ '-' := by
      rintro rfl
      have hc := hchars '-' (by simp [hlist])
      revert hc
      decide
    rw [ArgumentShape.of, String.toList_append, String.toList_append, hlist]
    simp [hhyphen]

theorem Invocation.ofArguments_compile {query : String}
    (hquery : ArgumentShape.of query = .plain) :
    ofArguments ["compile", query] = .ok ⟨.compile query false false, .auto, 0⟩ := by
  have harguments : commandArguments .compile false {} [query] =
      .ok { query := some query } := by
    simp only [commandArguments, hquery]
    rfl
  have hcommand : ofArguments ["compile", query] = finishCommand .compile {} [query] := rfl
  rw [hcommand, finishCommand, harguments]
  rfl

namespace Session

/-- Whatever the options, the keys are listed, and what is listed are some summaries. As JSON they
are written as they are, and in color with nothing but codes added. -/
structure ListsKeys (session : Session) (summaries : List KeySummary) : Prop where
  succeeded : ∀ json color verbosity,
    (session.run ⟨.keys json, color, verbosity⟩).succeeded = true
  json_eq : ∀ color verbosity, session.useColor color = false →
    (session.run ⟨.keys true, color, verbosity⟩).output =
      (Json.arr (summaries.map KeySummary.toJson)).pretty ++ "\n"
  strip_json_eq : ∀ color verbosity,
    Style.strip (session.run ⟨.keys true, color, verbosity⟩).output =
      (Json.arr (summaries.map KeySummary.toJson)).pretty ++ "\n"
  table_eq : summaries ≠ [] → ∀ color verbosity,
    (session.run ⟨.keys false, color, verbosity⟩).output = (KeySummary.table summaries).draw ++ "\n"

/-- The query is an argument of `compile` as it stands, and compiles whatever the options. -/
structure Compiles (session : Session) (query : String) : Prop where
  arguments : Invocation.ofArguments ["compile", query] =
    .ok ⟨.compile query false false, .auto, 0⟩
  succeeded : ∀ compact explain color verbosity,
    (session.run ⟨.compile query compact explain, color, verbosity⟩).succeeded = true

/-- The configuration of the working directory. -/
def config (session : Session) : Except ConfigFault Config :=
  session.tree.loadConfig session.home session.directory

variable {session : Session} {config : Config} {table : KeyTable} {fault : ConfigFault}

/-! ## Loading -/

theorem usable_of_config (hconfig : session.config = .ok config) : config.Usable := by
  obtain ⟨files, _, hmerge⟩ := bind_eq_ok_iff.1 hconfig
  exact Config.usable_of_merge hmerge

/-- Where there is no file, there is nothing to warn about. -/
theorem warnings_loadFiles_nil (tree : FileTree) :
    ∃ config, tree.loadFiles [] = .ok config ∧ config.warnings = [] :=
  ⟨{}, rfl, rfl⟩

/-- What a check can find: a fault of the configuration, no warning, or some. -/
theorem runCheck_cases (session : Session) (color : Bool) :
    (∃ fault lines, session.config = .error fault ∧ session.runCheck color =
        session.checkOutcome false lines ("error: " ++ fault.message ++ "\n")) ∨
      (∃ config lines, session.config = .ok config ∧ config.warnings = [] ∧
        session.runCheck color = session.checkOutcome true lines "") ∨
      ∃ config lines, session.config = .ok config ∧ config.warnings ≠ [] ∧
        session.runCheck color = session.checkOutcome false lines "" := by
  rw [Session.config, FileTree.loadConfig, runCheck]
  cases hfiles : session.tree.discover session.home session.directory with
  | nil =>
    obtain ⟨config, hload, hwarnings⟩ := warnings_loadFiles_nil session.tree
    exact .inr (.inl ⟨config, _, hload, hwarnings, rfl⟩)
  | cons first rest =>
    cases hload : session.tree.loadFiles (first :: rest) with
    | error fault => exact .inl ⟨fault, _, rfl, rfl⟩
    | ok config =>
      have hconfig : session.config = .ok config := by
        rw [Session.config, FileTree.loadConfig, hfiles, hload]
      obtain ⟨table, htable⟩ := KeyTable.exists_ofConfig (usable_of_config hconfig)
      simp only [List.isEmpty_cons, Bool.false_eq_true, if_false, htable]
      by_cases hwarnings : config.warnings.isEmpty = true
      · have hnone := List.isEmpty_iff.1 hwarnings
        exact .inr (.inl ⟨config, _, rfl, hnone, if_pos hwarnings⟩)
      · have hsome := mt List.isEmpty_iff.2 hwarnings
        exact .inr (.inr ⟨config, _, rfl, hsome, if_neg hwarnings⟩)

theorem succeeded_runCheck_iff {color : Bool} :
    (session.runCheck color).succeeded = true ↔
      ∃ config, session.config = .ok config ∧ config.warnings = [] := by
  rcases session.runCheck_cases color with
    ⟨fault, lines, hconfig, hcheck⟩ | ⟨config, lines, hconfig, hwarnings, hcheck⟩ |
      ⟨config, lines, hconfig, hwarnings, hcheck⟩
  · simp [hcheck, hconfig, checkOutcome]
  · simp [hcheck, hconfig, hwarnings, checkOutcome]
  · simp [hcheck, hconfig, hwarnings, checkOutcome]

/-- A check has an error text exactly if the configuration has a fault. Warnings are no errors. -/
theorem errors_runCheck_ne_empty_iff {color : Bool} :
    (session.runCheck color).errors ≠ "" ↔ ∃ fault, session.config = .error fault := by
  rcases session.runCheck_cases color with
    ⟨fault, lines, hconfig, hcheck⟩ | ⟨config, lines, hconfig, hwarnings, hcheck⟩ |
      ⟨config, lines, hconfig, hwarnings, hcheck⟩
  · simp [hcheck, hconfig, checkOutcome]
  · simp [hcheck, hconfig, checkOutcome]
  · simp [hcheck, hconfig, checkOutcome]

/-! ## Commands that need the configuration -/

theorem withConfig_of_error (hconfig : session.config = .error fault) (run : Config → Outcome) :
    (session.withConfig run).succeeded = false := by
  rw [Session.config] at hconfig
  rw [withConfig, hconfig]
  rfl

theorem withConfig_of_ok (hconfig : session.config = .ok config) (run : Config → Outcome) :
    session.withConfig run = run config := by
  rw [Session.config] at hconfig
  rw [withConfig, hconfig]

theorem run_of_needsConfig (hconfig : session.config = .error fault) {invocation : Invocation}
    (hneeds : invocation.command.NeedsConfig) : (session.run invocation).succeeded = false := by
  obtain ⟨command, color, verbosity⟩ := invocation
  cases hneeds <;> exact withConfig_of_error hconfig _

/-- JSON in color is left as it is written without. -/
theorem strip_prettyText (session : Session) (color : Bool) (value : Json) :
    Style.strip (session.prettyText color value) = value.pretty ++ "\n" := by
  have hplain := Json.isPlain_pretty value
  rw [prettyText, sourceText]
  cases color with
  | false =>
    have hline := Text.isPlain_append hplain (by rfl : Text.isPlain "\n" = true)
    exact Style.strip_of_no_escape (Text.escape_not_mem_of_isPlain hline)
  | true => exact Style.strip_paint_append _ _ (Text.escape_not_mem_of_isPlain hplain) _

theorem listsKeys (hconfig : session.config = .ok config)
    (htable : KeyTable.ofConfig config = .ok table) : session.ListsKeys table.summaries := by
  have hrun (json : Bool) (color : ColorMode) (verbosity : Nat) :
      session.run ⟨.keys json, color, verbosity⟩ =
        session.succeed
          (if json then
            session.prettyText (session.useColor color) (.arr (table.summaries.map KeySummary.toJson))
          else if table.summaries.isEmpty then
            Style.styled (session.useColor color) Style.dim "No keys defined." ++ "\n"
          else (KeySummary.table table.summaries).draw ++ "\n") := by
    simp only [run, withConfig_of_ok hconfig, runKeys, htable]
  refine ⟨fun json color verbosity => ?_, fun color verbosity hcolor => ?_,
    fun color verbosity => ?_, fun hnonempty color verbosity => ?_⟩
  · rw [hrun]
    rfl
  · rw [hrun, hcolor]
    rfl
  · rw [hrun]
    exact session.strip_prettyText _ _
  · rw [hrun]
    exact if_neg (by simpa using hnonempty)

theorem succeeded_runCompile {compiler : Compiler} {query : String} {clause : Clause}
    (hconfig : session.config = .ok config) (hcompiler : Compiler.ofConfig config = .ok compiler)
    (hquery : compiler.compileQuery query = .ok clause) (compact explain : Bool)
    (color : ColorMode) (verbosity : Nat) :
    (session.run ⟨.compile query compact explain, color, verbosity⟩).succeeded = true := by
  obtain ⟨tree, hread, hcompile⟩ := bind_eq_ok_iff.1 hquery
  simp only [run, withConfig_of_ok hconfig, runCompile, hcompiler, hread, hcompile]
  rfl

/-- If every key of the table can stand in queries, all that are listed do compile. -/
theorem exists_compiles_of_mem_summaries (hconfig : session.config = .ok config)
    (hcompiler : Compiler.ofConfig config = .ok ⟨table, config.settings.maxDepth⟩)
    (hkeys : ∀ key ∈ table.names, isKeyShaped key = true) {summary : KeySummary}
    (hsummary : summary ∈ table.summaries) :
    ∃ value, session.Compiles (summary.name ++ ":" ++ value) := by
  obtain ⟨entry, hentry, rfl⟩ := List.mem_map.1 hsummary
  let compiler : Compiler := ⟨table, config.settings.maxDepth⟩
  have hname : entry.1 ∈ compiler.keys.names := List.mem_map_of_mem hentry
  have hkey := hkeys entry.1 hname
  obtain ⟨value, clause, _, hquery⟩ := Compiler.exists_compileQuery_leaf hkey hname
  exact ⟨value, Invocation.ofArguments_compile (ArgumentShape.of_leaf hkey value),
    succeeded_runCompile hconfig hcompiler hquery⟩

/-- Where a check succeeds, there is a configuration whose keys are listed, and each of them compiles
with some value. Where it fails for a fault of the configuration, every command that needs one fails
too. -/
theorem check_foretells (session : Session) (color : ColorMode) (verbosity : Nat) :
    ((session.run ⟨.check, color, verbosity⟩).succeeded = true →
        ∃ config table, session.config = .ok config ∧ KeyTable.ofConfig config = .ok table ∧
          session.ListsKeys table.summaries ∧
            ∀ summary ∈ table.summaries, ∃ value,
              session.Compiles (summary.name ++ ":" ++ value)) ∧
      ((session.run ⟨.check, color, verbosity⟩).succeeded = false ∧
          (session.run ⟨.check, color, verbosity⟩).errors ≠ "" →
        ∀ invocation : Invocation, invocation.command.NeedsConfig →
          (session.run invocation).succeeded = false) := by
  constructor
  · intro hcheck
    obtain ⟨config, hconfig, hwarnings⟩ := succeeded_runCheck_iff.1 hcheck
    obtain ⟨table, htable, hholds, hcompiler⟩ := (usable_of_config hconfig).exists_ofConfig
    have hkeys := Config.isKeyShaped_of_warnings_eq_nil hholds hwarnings
    exact ⟨config, table, hconfig, htable, listsKeys hconfig htable, fun summary hsummary =>
      exists_compiles_of_mem_summaries hconfig hcompiler hkeys hsummary⟩
  · rintro ⟨_, herrors⟩ invocation hneeds
    obtain ⟨fault, hconfig⟩ := errors_runCheck_ne_empty_iff.1 herrors
    exact run_of_needsConfig hconfig hneeds

/-- With its bound the key `stars` compiles, and without it no command works. -/
theorem check_foretells_stars :
    let sessionWith (text : String) : Session :=
      { tree := ⟨[(["work"], .directory), ([".sift.toml", "work"], .text text)]⟩
        directory := Path.ofText "/work"
        home := none }
    let bounded := sessionWith
      "[keys.stars]\nrule = \"range\"\nfield = \"stars\"\nbound = \"lower\"\nvalue = \"integer\"\n"
    let unbounded := sessionWith "[keys.stars]\nrule = \"range\"\nfield = \"stars\"\n"
    ((bounded.run ⟨.check, .auto, 0⟩).succeeded = true ∧
        ∃ config table, bounded.config = .ok config ∧ KeyTable.ofConfig config = .ok table ∧
          bounded.ListsKeys table.summaries ∧
            ∀ summary ∈ table.summaries, ∃ value,
              bounded.Compiles (summary.name ++ ":" ++ value)) ∧
      ((unbounded.run ⟨.check, .auto, 0⟩).succeeded = false ∧
          (unbounded.run ⟨.check, .auto, 0⟩).errors ≠ "") ∧
        ∀ invocation : Invocation, invocation.command.NeedsConfig →
          (unbounded.run invocation).succeeded = false := by
  intro sessionWith bounded unbounded
  have hsucceeds : (bounded.run ⟨.check, .auto, 0⟩).succeeded = true := by decide +kernel
  have hfails : (unbounded.run ⟨.check, .auto, 0⟩).succeeded = false ∧
      (unbounded.run ⟨.check, .auto, 0⟩).errors ≠ "" := by
    decide +kernel
  exact ⟨⟨hsucceeds, (check_foretells bounded .auto 0).1 hsucceeds⟩, hfails,
    (check_foretells unbounded .auto 0).2 hfails⟩

end Session

end FilterQuery

import FilterQuery.Config.Merged
import FilterQuery.Proofs.Outcome
import Mathlib.Data.List.Infix

/-!
# Which file a merged configuration takes what from

A setting comes from the closest file that gives it, and a key wholly from the closest file that
defines it. Every nesting limit must be in range, be it used or not, but only the closest definition
of a key must have the bound its rule needs.
-/

namespace FilterQuery

namespace ConfigFile

def maxDepth? (file : ConfigFile) : Option Nat :=
  file.settings.bind (·.maxDepth)

def builtinKeys? (file : ConfigFile) : Option Bool :=
  file.settings.bind (·.builtinKeys)

def definition? (file : ConfigFile) (name : String) : Option KeySection :=
  file.keys.bind (·.get? name)

end ConfigFile

/-- The file gives a nesting limit that is not one of those from 1 to 128. -/
def NamedFile.OutOfRange (file : NamedFile) : Prop :=
  ∃ depth, file.content.maxDepth? = some depth ∧ (depth = 0 ∨ 128 < depth)

/-- A range of which neither end is given as the bound. -/
def KeySection.Unbounded (given : KeySection) : Prop :=
  given.rule = .range ∧ given.bound = none

/-- The definition with what it leaves out filled in. -/
def KeySection.completed (given : KeySection) (path : String) : KeyDefinition where
  rule := given.rule
  field := given.field
  bound := given.bound
  inclusive := given.inclusive.getD true
  value := given.value.getD (match given.rule with | .range => .date | .term => .keyword)
  source := path

namespace Config

/-- The closest file that defines a key, and how it defines it. -/
def closest? (files : List NamedFile) (name : String) : Option (NamedFile × KeySection) :=
  files.findSome? fun file => (file.content.definition? name).map (file, ·)

/-- The closest definition of a key is a range without a bound. -/
def LacksBound (files : List NamedFile) (name : String) : Prop :=
  ∃ file given, closest? files name = some (file, given) ∧ given.Unbounded

/-- A fault is the one that merging some files has, the closest first. -/
inductive Faulty (files : List NamedFile) : ConfigFault → Prop
  /-- The farthest file with a limit out of range has it. -/
  | depth {file : NamedFile} {after : List NamedFile} {depth : Nat}
      (hfile : file :: after <:+ files) (hdepth : file.content.maxDepth? = some depth)
      (hrange : depth = 0 ∨ 128 < depth) (hafter : ∀ farther ∈ after, ¬ farther.OutOfRange) :
      Faulty files (.depthOutOfRange file.path depth)
  /-- If all limits are in range, the first of the closest definitions that lack a bound has it:
  first by file, and in its file by name. -/
  | bound {before : List NamedFile} {file : NamedFile} {name : String}
      (hdepths : ∀ other ∈ files, ¬ other.OutOfRange) (hfile : before ++ [file] <+: files)
      (hbefore : ∀ other, ¬ LacksBound before other) (hname : LacksBound (before ++ [file]) name)
      (hearlier : ∀ other < name, ¬ LacksBound (before ++ [file]) other) :
      Faulty files (.unboundedRange file.path name)

/-- What a configuration takes from the files it is merged from, the closest first. -/
structure MergedFrom (files : List NamedFile) (config : Config) : Prop where
  maxDepth_eq : config.settings.maxDepth =
    (files.findSome? (·.content.maxDepth?)).getD defaultMaxDepth
  builtinKeys_eq : config.settings.builtinKeys =
    (files.findSome? (·.content.builtinKeys?)).getD true
  mem_names : ∀ name, name ∈ config.keys.names ↔
    ∃ file ∈ files, ∃ keys, file.content.keys = some keys ∧ name ∈ keys.names
  get?_eq : ∀ name, config.keys.get? name =
    (closest? files name).map fun closest => closest.2.completed closest.1.path

end Config

/-! ## Settings -/

theorem ConfigFile.maxDepth?_eq (file : ConfigFile) :
    file.maxDepth? = (file.settings.getD {}).maxDepth := by
  rw [maxDepth?]
  cases file.settings <;> rfl

theorem ConfigFile.builtinKeys?_eq (file : ConfigFile) :
    file.builtinKeys? = (file.settings.getD {}).builtinKeys := by
  rw [builtinKeys?]
  cases file.settings <;> rfl

theorem getD_findSome?_cons {α β : Type} (f : α → Option β) (first : α) (rest : List α)
    (value : β) :
    ((first :: rest).findSome? f).getD value =
      (f first).getD ((rest.findSome? f).getD value) := by
  rw [List.findSome?_cons]
  cases f first <;> rfl

namespace Settings

variable {file : NamedFile} {files : List NamedFile} {settings merged : Settings}
  {fault : ConfigFault} {path : String} {closer : SettingsSection}

theorem override_of_outOfRange {depth : Nat} (hdepth : closer.maxDepth = some depth)
    (hrange : depth = 0 ∨ 128 < depth) :
    settings.override path closer = .error (.depthOutOfRange path depth) := by
  have hnot : ¬ (1 ≤ depth ∧ depth ≤ maxDepthCeiling) := by
    rw [maxDepthCeiling]
    omega
  simp only [override, hdepth, if_neg hnot]
  rfl

theorem override_of_inRange
    (hdepth : ¬ ∃ depth, closer.maxDepth = some depth ∧ (depth = 0 ∨ 128 < depth)) :
    settings.override path closer = .ok ⟨closer.maxDepth.getD settings.maxDepth,
      closer.builtinKeys.getD settings.builtinKeys⟩ := by
  rw [override]
  cases hgiven : closer.maxDepth with
  | none => rfl
  | some depth =>
    have hrange : 1 ≤ depth ∧ depth ≤ maxDepthCeiling := by
      rw [maxDepthCeiling]
      by_contra hnot
      exact hdepth ⟨depth, hgiven, by omega⟩
    simp only [if_pos hrange]
    rfl

theorem override_eq_ok_iff :
    settings.override path closer = .ok merged ↔
      (¬ ∃ depth, closer.maxDepth = some depth ∧ (depth = 0 ∨ 128 < depth)) ∧
        merged = ⟨closer.maxDepth.getD settings.maxDepth,
          closer.builtinKeys.getD settings.builtinKeys⟩ := by
  by_cases hdepth : ∃ depth, closer.maxDepth = some depth ∧ (depth = 0 ∨ 128 < depth)
  · obtain ⟨depth, hgiven, hrange⟩ := hdepth
    rw [override_of_outOfRange hgiven hrange]
    simp [hgiven, hrange]
  · rw [override_of_inRange hdepth]
    simp [hdepth, eq_comm]

theorem override_eq_error_iff :
    settings.override path closer = .error fault ↔
      ∃ depth, closer.maxDepth = some depth ∧ (depth = 0 ∨ 128 < depth) ∧
        fault = .depthOutOfRange path depth := by
  by_cases hdepth : ∃ depth, closer.maxDepth = some depth ∧ (depth = 0 ∨ 128 < depth)
  · obtain ⟨depth, hgiven, hrange⟩ := hdepth
    rw [override_of_outOfRange hgiven hrange]
    simp [hgiven, hrange, eq_comm]
  · rw [override_of_inRange hdepth]
    refine iff_of_false (by simp) fun hfault => ?_
    obtain ⟨depth, hgiven, hrange, _⟩ := hfault
    exact hdepth ⟨depth, hgiven, hrange⟩

/-- A file without a section of settings is merged like one whose section gives none. -/
theorem merge_cons (file : NamedFile) (farther : List NamedFile) :
    merge (file :: farther) =
      merge farther >>= fun settings =>
        settings.override file.path (file.content.settings.getD {}) := by
  rw [merge]
  cases file.content.settings <;> rfl

/-- A setting comes from the closest file that gives it, if all limits are in range. -/
theorem merge_eq_ok_iff :
    merge files = .ok settings ↔
      (∀ file ∈ files, ¬ file.OutOfRange) ∧
        settings = ⟨(files.findSome? (·.content.maxDepth?)).getD defaultMaxDepth,
          (files.findSome? (·.content.builtinKeys?)).getD true⟩ := by
  induction files generalizing settings with
  | nil => simp [merge, eq_comm]
  | cons file farther ih =>
    rw [merge_cons, bind_eq_ok_iff, List.forall_mem_cons, getD_findSome?_cons, getD_findSome?_cons]
    simp only [ih, override_eq_ok_iff, ← ConfigFile.maxDepth?_eq,
      ← ConfigFile.builtinKeys?_eq]
    constructor
    · rintro ⟨below, ⟨hfarther, rfl⟩, hfile, rfl⟩
      exact ⟨⟨hfile, hfarther⟩, rfl⟩
    · rintro ⟨⟨hfile, hfarther⟩, rfl⟩
      exact ⟨_, ⟨hfarther, rfl⟩, hfile, rfl⟩

/-- The farthest limit that is out of range is the fault. -/
theorem merge_eq_error_iff :
    merge files = .error fault ↔
      ∃ file after depth, file :: after <:+ files ∧ file.content.maxDepth? = some depth ∧
        (depth = 0 ∨ 128 < depth) ∧ (∀ farther ∈ after, ¬ farther.OutOfRange) ∧
          fault = .depthOutOfRange file.path depth := by
  induction files with
  | nil => simp [merge]
  | cons file farther ih =>
    rw [merge_cons, bind_eq_error_iff, ih]
    simp only [override_eq_error_iff, ← ConfigFile.maxDepth?_eq, merge_eq_ok_iff]
    constructor
    · rintro (⟨faulty, after, depth, hfile, hfaulty⟩ | ⟨settings, ⟨hfarther, _⟩, depth, hfaulty⟩)
      · exact ⟨faulty, after, depth, hfile.trans (List.suffix_cons _ _), hfaulty⟩
      · exact ⟨file, farther, depth, List.suffix_rfl, hfaulty.1, hfaulty.2.1, hfarther,
          hfaulty.2.2⟩
    · rintro ⟨faulty, after, depth, hfile, hdepth, hrange, hafter, rfl⟩
      rcases List.suffix_cons_iff.1 hfile with heq | hsuffix
      · obtain ⟨rfl, rfl⟩ := List.cons.inj heq
        exact .inr ⟨_, ⟨hafter, rfl⟩, depth, hdepth, hrange, rfl⟩
      · exact .inl ⟨faulty, after, depth, hsuffix, hdepth, hrange, hafter, rfl⟩

end Settings

/-! ## Keys -/

namespace KeyDefinition

open NameMap (valueIn)

variable {keys extended : NameMap KeyDefinition} {entries : List (String × KeySection)}
  {path name first : String} {given : KeySection} {known : KeyDefinition} {fault : ConfigFault}

theorem ofSection_of_unbounded (h : given.Unbounded) :
    ofSection path name given = .error (.unboundedRange path name) :=
  if_pos h

theorem ofSection_of_bounded (h : ¬ given.Unbounded) :
    ofSection path name given = .ok (given.completed path) := by
  have hformat : given.value.getD (defaultFormat given.rule) = (given.completed path).value := by
    rw [KeySection.completed]
    cases given.rule <;> rfl
  rw [ofSection, hformat]
  exact if_neg h

/-- A name that is missing among some keys is given by entries that say it lacks a bound. -/
def AddsUnbounded (keys : NameMap KeyDefinition) (entries : List (String × KeySection))
    (name : String) : Prop :=
  keys.get? name = none ∧ ∃ given, valueIn name entries = some given ∧ given.Unbounded

theorem extend_of_known (h : keys.get? first = some known) :
    extend keys path ((first, given) :: entries) = extend keys path entries := by
  rw [extend, NameMap.contains, h]
  rfl

theorem extend_of_unbounded (h : keys.get? first = none) (hgiven : given.Unbounded) :
    extend keys path ((first, given) :: entries) = .error (.unboundedRange path first) := by
  rw [extend, NameMap.contains, h, ofSection_of_unbounded hgiven]
  rfl

theorem extend_of_bounded (h : keys.get? first = none) (hgiven : ¬ given.Unbounded) :
    extend keys path ((first, given) :: entries) =
      extend (keys.insert first (given.completed path)) path entries := by
  rw [extend, NameMap.contains, h, ofSection_of_bounded hgiven]
  rfl

theorem addsUnbounded_of_known (h : keys.get? first = some known) :
    AddsUnbounded keys ((first, given) :: entries) name ↔ AddsUnbounded keys entries name := by
  simp only [AddsUnbounded, valueIn]
  split
  · next hname => simp [hname, h]
  · rfl

theorem addsUnbounded_of_bounded (hgiven : ¬ given.Unbounded) (definition : KeyDefinition) :
    AddsUnbounded keys ((first, given) :: entries) name ↔
      AddsUnbounded (keys.insert first definition) entries name := by
  simp only [AddsUnbounded, valueIn, NameMap.get?_insert]
  split
  · simp [hgiven]
  · rfl

/-- Names that are missing are filled in, if none of them lacks a bound. -/
theorem extend_eq_ok (hextend : extend keys path entries = .ok extended) (name : String) :
    ¬ AddsUnbounded keys entries name ∧ extended.get? name =
      (keys.get? name).or ((valueIn name entries).map (·.completed path)) := by
  induction entries generalizing keys with
  | nil =>
    cases hextend
    simp [AddsUnbounded, valueIn]
  | cons entry rest ih =>
    obtain ⟨first, given⟩ := entry
    cases hfirst : keys.get? first with
    | some known =>
      rw [extend_of_known hfirst] at hextend
      obtain ⟨hadds, hget⟩ := ih hextend
      refine ⟨fun h => hadds ((addsUnbounded_of_known hfirst).1 h), ?_⟩
      rw [hget, valueIn]
      split
      · next hname => simp [hname, hfirst]
      · rfl
    | none =>
      by_cases hgiven : given.Unbounded
      · rw [extend_of_unbounded hfirst hgiven] at hextend
        cases hextend
      · rw [extend_of_bounded hfirst hgiven] at hextend
        obtain ⟨hadds, hget⟩ := ih hextend
        refine ⟨fun h => hadds ((addsUnbounded_of_bounded hgiven _).1 h), ?_⟩
        rw [hget, valueIn, NameMap.get?_insert]
        split
        · next hname => simp [hname, hfirst]
        · rfl

theorem first_le_of_addsUnbounded
    (hascending : ((first, given) :: entries).Pairwise fun left right => left.1 < right.1)
    (h : AddsUnbounded keys ((first, given) :: entries) name) : first ≤ name := by
  obtain ⟨_, value, hvalue, _⟩ := h
  rcases List.mem_cons.1 (NameMap.mem_of_valueIn hvalue) with heq | hmem
  · cases heq
    exact String.le_refl name
  · exact Std.le_of_lt ((List.pairwise_cons.1 hascending).1 _ hmem)

/-- The first name that is missing and lacks a bound is the fault. -/
theorem extend_eq_error_iff (hascending : entries.Pairwise fun left right => left.1 < right.1) :
    extend keys path entries = .error fault ↔
      ∃ name, AddsUnbounded keys entries name ∧
        (∀ earlier < name, ¬ AddsUnbounded keys entries earlier) ∧
          fault = .unboundedRange path name := by
  induction entries generalizing keys with
  | nil => simp [extend, AddsUnbounded, valueIn]
  | cons entry rest ih =>
    obtain ⟨first, given⟩ := entry
    obtain ⟨_, hrest⟩ := List.pairwise_cons.1 hascending
    cases hfirst : keys.get? first with
    | some known =>
      simp only [extend_of_known hfirst, ih hrest, addsUnbounded_of_known hfirst]
    | none =>
      by_cases hgiven : given.Unbounded
      · have hadds : AddsUnbounded keys ((first, given) :: rest) first :=
          ⟨hfirst, given, if_pos rfl, hgiven⟩
        rw [extend_of_unbounded hfirst hgiven]
        constructor
        · intro hfault
          cases hfault
          refine ⟨first, hadds, fun earlier hless hearlier => ?_, rfl⟩
          exact String.not_lt.2 (first_le_of_addsUnbounded hascending hearlier) hless
        · rintro ⟨name, hname, hearlier, rfl⟩
          have hle : name ≤ first := String.not_lt.1 fun hless => hearlier first hless hadds
          have heq := String.le_antisymm hle (first_le_of_addsUnbounded hascending hname)
          rw [heq]
      · simp only [extend_of_bounded hfirst hgiven, ih hrest,
          addsUnbounded_of_bounded hgiven (given.completed path)]

theorem valueIn_sections (file : ConfigFile) (name : String) :
    valueIn name (sections file) = file.definition? name := by
  rw [sections, ConfigFile.definition?]
  cases file.keys <;> rfl

theorem pairwise_sections (file : ConfigFile) :
    (sections file).Pairwise fun left right => left.1 < right.1 := by
  rw [sections]
  cases file.keys with
  | none => exact .nil
  | some keys => exact keys.ascending

theorem merge_concat (files : List NamedFile) (file : NamedFile) :
    merge (files ++ [file]) =
      merge files >>= fun keys => extend keys file.path (sections file.content) := by
  rw [merge, List.foldlM_append, merge]
  simp only [List.foldlM_cons, List.foldlM_nil, bind_pure]

end KeyDefinition

namespace Config

open KeyDefinition (AddsUnbounded extend sections)

variable {files : List NamedFile} {file : NamedFile} {name : String}
  {keys : NameMap KeyDefinition} {fault : ConfigFault}

theorem closest?_concat (files : List NamedFile) (file : NamedFile) (name : String) :
    closest? (files ++ [file]) name =
      (closest? files name).or ((file.content.definition? name).map (file, ·)) := by
  simp [closest?, List.findSome?_append]

/-- A farther file can only add names that no closer file defines. -/
theorem lacksBound_concat_iff
    (hkeys : keys.get? name = none ↔ closest? files name = none) :
    LacksBound (files ++ [file]) name ↔
      LacksBound files name ∨ AddsUnbounded keys (sections file.content) name := by
  rw [AddsUnbounded, KeyDefinition.valueIn_sections, hkeys, LacksBound, LacksBound, closest?_concat]
  cases closest? files name with
  | none => simp
  | some closest => simp

/-- Merged keys are completed from their closest definitions, none of which lacks a bound. -/
theorem get?_of_merge (hmerge : KeyDefinition.merge files = .ok keys) (name : String) :
    ¬ LacksBound files name ∧ keys.get? name =
      (closest? files name).map fun closest => closest.2.completed closest.1.path := by
  -- The last step of the merge is that of the farthest file.
  induction files using List.reverseRecOn generalizing keys with
  | nil =>
    cases hmerge
    simp [LacksBound, closest?]
  | append_singleton files file ih =>
    rw [KeyDefinition.merge_concat, bind_eq_ok_iff] at hmerge
    obtain ⟨closer, hcloser, hextend⟩ := hmerge
    obtain ⟨hlacks, hget⟩ := ih hcloser
    obtain ⟨hadds, hextended⟩ := KeyDefinition.extend_eq_ok hextend name
    have hnone : closer.get? name = none ↔ closest? files name = none := by simp [hget]
    rw [lacksBound_concat_iff hnone, hextended, hget, KeyDefinition.valueIn_sections,
      closest?_concat, Option.map_or, Option.map_map]
    exact ⟨not_or.2 ⟨hlacks, hadds⟩, rfl⟩

theorem lacksBound_concat_iff_of_merge (hmerge : KeyDefinition.merge files = .ok keys) :
    LacksBound (files ++ [file]) name ↔ AddsUnbounded keys (sections file.content) name := by
  obtain ⟨hlacks, hget⟩ := get?_of_merge hmerge name
  have hnone : keys.get? name = none ↔ closest? files name = none := by simp [hget]
  rw [lacksBound_concat_iff hnone, or_iff_right hlacks]

theorem extend_eq_error_iff_of_merge (hmerge : KeyDefinition.merge files = .ok keys) :
    extend keys file.path (sections file.content) = .error fault ↔
      ∃ name, LacksBound (files ++ [file]) name ∧
        (∀ other < name, ¬ LacksBound (files ++ [file]) other) ∧
          fault = .unboundedRange file.path name := by
  simp only [KeyDefinition.extend_eq_error_iff (KeyDefinition.pairwise_sections file.content),
    lacksBound_concat_iff_of_merge hmerge]

/-- Farther files do not change the closest definition. -/
theorem LacksBound.mono {before : List NamedFile} (h : LacksBound before name)
    (hfiles : before <+: files) : LacksBound files name := by
  obtain ⟨file, given, hclosest, hgiven⟩ := h
  obtain ⟨after, rfl⟩ := hfiles
  refine ⟨file, given, ?_, hgiven⟩
  rw [closest?] at hclosest ⊢
  rw [List.findSome?_append, hclosest, Option.some_or]

theorem exists_merge_keys_iff :
    (∃ keys, KeyDefinition.merge files = .ok keys) ↔ ∀ name, ¬ LacksBound files name := by
  constructor
  · rintro ⟨keys, hmerge⟩ name
    exact (get?_of_merge hmerge name).1
  · intro hlacks
    induction files using List.reverseRecOn with
    | nil => exact ⟨_, rfl⟩
    | append_singleton files file ih =>
      obtain ⟨keys, hkeys⟩ := ih fun name h => hlacks name (h.mono (List.prefix_append _ _))
      cases hextend : extend keys file.path (sections file.content) with
      | ok extended =>
        exact ⟨extended, by rw [KeyDefinition.merge_concat, hkeys]; exact hextend⟩
      | error fault =>
        obtain ⟨name, hname, _⟩ := (extend_eq_error_iff_of_merge hkeys).1 hextend
        exact absurd hname (hlacks name)

/-- The first of the closest definitions that lacks a bound is the fault. -/
theorem merge_keys_eq_error_iff :
    KeyDefinition.merge files = .error fault ↔
      ∃ before file name, before ++ [file] <+: files ∧ (∀ other, ¬ LacksBound before other) ∧
        LacksBound (before ++ [file]) name ∧
          (∀ other < name, ¬ LacksBound (before ++ [file]) other) ∧
            fault = .unboundedRange file.path name := by
  induction files using List.reverseRecOn with
  | nil => simp [KeyDefinition.merge, pure, Except.pure]
  | append_singleton files file ih =>
    rw [KeyDefinition.merge_concat, bind_eq_error_iff, ih]
    constructor
    · rintro (⟨before, faulty, name, hprefix, hfault⟩ | ⟨keys, hkeys, hextend⟩)
      · exact ⟨before, faulty, name, hprefix.trans (List.prefix_append _ _), hfault⟩
      · obtain ⟨name, hfault⟩ := (extend_eq_error_iff_of_merge hkeys).1 hextend
        have hbefore := exists_merge_keys_iff.1 ⟨keys, hkeys⟩
        exact ⟨files, file, name, List.prefix_rfl, hbefore, hfault⟩
    · rintro ⟨before, faulty, name, hprefix, hbefore, hfault⟩
      rcases List.prefix_concat_iff.1 hprefix with heq | hcloser
      · obtain ⟨rfl, hfile⟩ := List.append_inj' heq rfl
        cases hfile
        obtain ⟨keys, hkeys⟩ := exists_merge_keys_iff.2 hbefore
        exact .inr ⟨keys, hkeys, (extend_eq_error_iff_of_merge hkeys).2 ⟨name, hfault⟩⟩
      · exact .inl ⟨before, faulty, name, hcloser, hbefore, hfault⟩

/-! ## Configurations -/

theorem isSome_definition?_iff (file : ConfigFile) (name : String) :
    (file.definition? name).isSome = true ↔ ∃ keys, file.keys = some keys ∧ name ∈ keys.names := by
  rw [ConfigFile.definition?]
  cases file.keys with
  | none => simp
  | some keys => simp [NameMap.mem_names_iff, NameMap.contains]

theorem isSome_closest?_iff (files : List NamedFile) (name : String) :
    (closest? files name).isSome = true ↔
      ∃ file ∈ files, ∃ keys, file.content.keys = some keys ∧ name ∈ keys.names := by
  rw [closest?, List.findSome?_isSome_iff]
  simp only [Option.isSome_map, isSome_definition?_iff]

theorem parts_of_merge {config : Config} (hmerge : merge files = .ok config) :
    Settings.merge files = .ok config.settings ∧ KeyDefinition.merge files = .ok config.keys := by
  obtain ⟨settings, hsettings, hrest⟩ := bind_eq_ok_iff.1 hmerge
  obtain ⟨keys, hkeys, hconfig⟩ := bind_eq_ok_iff.1 hrest
  cases hconfig
  exact ⟨hsettings, hkeys⟩

theorem mergedFrom_of_merge {config : Config} (hmerge : merge files = .ok config) :
    MergedFrom files config := by
  obtain ⟨hsettings, hkeys⟩ := parts_of_merge hmerge
  obtain ⟨_, heq⟩ := Settings.merge_eq_ok_iff.1 hsettings
  have hget (name : String) := (get?_of_merge hkeys name).2
  refine ⟨by rw [heq], by rw [heq], fun name => ?_, hget⟩
  rw [NameMap.mem_names_iff, NameMap.contains, hget, Option.isSome_map, isSome_closest?_iff]

/-- Faults of settings come first. -/
theorem merge_eq_error_iff : merge files = .error fault ↔ Faulty files fault := by
  rw [merge, bind_eq_error_iff, Settings.merge_eq_error_iff]
  constructor
  · rintro (⟨file, after, depth, hfile, hdepth, hrange, hafter, rfl⟩ | ⟨settings, hsettings, hrest⟩)
    · exact .depth hfile hdepth hrange hafter
    · obtain ⟨hdepths, _⟩ := Settings.merge_eq_ok_iff.1 hsettings
      rcases bind_eq_error_iff.1 hrest with hkeys | ⟨keys, _, hconfig⟩
      · obtain ⟨before, file, name, hfile, hbefore, hname, hearlier, rfl⟩ :=
          merge_keys_eq_error_iff.1 hkeys
        exact .bound hdepths hfile hbefore hname hearlier
      · cases hconfig
  · intro hfaulty
    cases hfaulty with
    | depth hfile hdepth hrange hafter =>
      exact .inl ⟨_, _, _, hfile, hdepth, hrange, hafter, rfl⟩
    | bound hdepths hfile hbefore hname hearlier =>
      have hsettings := Settings.merge_eq_ok_iff.2 ⟨hdepths, rfl⟩
      have hkeys := merge_keys_eq_error_iff.2 ⟨_, _, _, hfile, hbefore, hname, hearlier, rfl⟩
      exact .inr ⟨_, hsettings, bind_eq_error_iff.2 (.inl hkeys)⟩

theorem exists_fault_iff :
    (∃ fault, merge files = .error fault) ↔
      (∃ file ∈ files, file.OutOfRange) ∨ ∃ name, LacksBound files name := by
  constructor
  · rintro ⟨fault, hmerge⟩
    cases merge_eq_error_iff.1 hmerge with
    | depth hfile hdepth hrange hafter =>
      exact .inl ⟨_, hfile.subset List.mem_cons_self, _, hdepth, hrange⟩
    | bound hdepths hfile hbefore hname hearlier =>
      exact .inr ⟨_, hname.mono hfile⟩
  · intro hwrong
    cases hmerge : merge files with
    | error fault => exact ⟨fault, rfl⟩
    | ok config =>
      obtain ⟨hsettings, hkeys⟩ := parts_of_merge hmerge
      rcases hwrong with ⟨file, hfile, hrange⟩ | ⟨name, hname⟩
      · exact absurd hrange ((Settings.merge_eq_ok_iff.1 hsettings).1 file hfile)
      · exact absurd hname (get?_of_merge hkeys name).1

/-- A merge fails if any file has a limit out of range or the closest definition of any key lacks a
bound. Otherwise everything comes from the closest file that gives it. -/
theorem merge_outcome (files : List NamedFile) :
    ((∃ fault, merge files = .error fault) ↔
        (∃ file ∈ files, file.OutOfRange) ∨ ∃ name, LacksBound files name) ∧
      (∀ fault, merge files = .error fault ↔ Faulty files fault) ∧
        ∀ config, merge files = .ok config → MergedFrom files config :=
  ⟨exists_fault_iff, fun _ => merge_eq_error_iff, fun _ => mergedFrom_of_merge⟩

end Config

end FilterQuery

import FilterQuery.Toml.Document
import Mathlib.Data.List.Nodup

/-!
# Sections become tables

A section is a header with pairs under it. Sections of new names that follow each other become
tables that hold the pairs of their sections, in the order of the document. The open table is always
the last one, on every frame above it.
-/

namespace FilterQuery.Toml

namespace Entries

/-- The names in the order of their first mention. -/
def names (entries : Entries) : List String :=
  entries.map (·.1)

theorem get?_eq_none {entries : Entries} {name : String} (hname : name ∉ entries.names) :
    entries.get? name = none := by
  induction entries with
  | nil => rfl
  | cons first rest ih =>
    obtain ⟨hfirst, hrest⟩ := List.ne_and_not_mem_of_not_mem_cons hname
    rw [get?, if_neg hfirst]
    exact ih hrest

/-- A new entry is found behind the others. -/
theorem get?_concat {entries : Entries} {name : String} (hname : name ∉ entries.names)
    (value : Value) : Entries.get? name (entries ++ [(name, value)]) = some value := by
  induction entries with
  | nil => exact if_pos rfl
  | cons first rest ih =>
    obtain ⟨hfirst, hrest⟩ := List.ne_and_not_mem_of_not_mem_cons hname
    rw [List.cons_append, get?, if_neg hfirst]
    exact ih hrest

theorem replace_concat {entries : Entries} {name : String} (hname : name ∉ entries.names)
    (value other : Value) :
    Entries.replace name other (entries ++ [(name, value)]) = entries ++ [(name, other)] := by
  induction entries with
  | nil => exact if_pos rfl
  | cons first rest ih =>
    obtain ⟨hfirst, hrest⟩ := List.ne_and_not_mem_of_not_mem_cons hname
    rw [List.cons_append, replace, if_neg hfirst, ih hrest, List.cons_append]

/-- A table on the way to the open one, behind the entries before it. -/
structure Frame where
  before : Entries
  name : String
  origin : Origin

/-- The name of a table on the way is new. -/
def Frame.Fresh (frame : Frame) : Prop :=
  frame.name ∉ frame.before.names

/-- The entries of a document whose open table, the last on every level, has the given ones. -/
def plug : List Frame → Entries → Entries
  | [], inner => inner
  | frame :: frames, inner =>
    frame.before ++ [(frame.name, .table frame.origin (plug frames inner))]

/-- An update of the open table leaves what is before it. -/
theorem updateAt_plug (update : Entries → Option Entries) {frames : List Frame}
    (hfresh : ∀ frame ∈ frames, frame.Fresh) (inner : Entries) :
    updateAt update (frames.map (·.name)) (plug frames inner) =
      (update inner).map (plug frames) := by
  induction frames with
  | nil => exact Option.map_id'.symm
  | cons frame frames ih =>
    obtain ⟨hframe, hframes⟩ := List.forall_mem_cons.1 hfresh
    rw [List.map_cons, updateAt, plug, get?_concat hframe]
    simp only [ih hframes, replace_concat hframe]
    cases update inner <;> rfl

theorem putPair_concat {entries : Entries} {name : String} (hname : name ∉ entries.names)
    (value : Value) : entries.putPair [name] value = some (entries ++ [(name, value)]) := by
  rw [putPair, get?_eq_none hname]

end Entries

open Entries (Frame plug)

theorem not_mem_of_nodup_append_cons {front back : List String} {name : String}
    (hnames : (front ++ name :: back).Nodup) : name ∉ front := by
  intro hmem
  exact (List.nodup_append.1 hnames).2.2 name hmem name List.mem_cons_self rfl

/-- The statements of a section. -/
def sectionStatements (path : List String) (pairs : Entries) : List Statement :=
  .header path :: pairs.map fun pair => .pair [pair.1] pair.2

theorem foldlM_add_pairs {frames : List Frame} (hfresh : ∀ frame ∈ frames, frame.Fresh)
    {inner pairs : Entries} (hnames : (inner ++ pairs).names.Nodup) :
    (pairs.map fun pair => Statement.pair [pair.1] pair.2).foldlM Draft.add
        ⟨frames.map (·.name), plug frames inner⟩ =
      some ⟨frames.map (·.name), plug frames (inner ++ pairs)⟩ := by
  induction pairs generalizing inner with
  | nil => simp
  | cons pair pairs ih =>
    have hsplit : inner ++ pair :: pairs = (inner ++ [pair]) ++ pairs := List.append_cons _ _ _
    have hpair : pair.1 ∉ Entries.names inner := by
      rw [Entries.names, List.map_append] at hnames
      exact not_mem_of_nodup_append_cons hnames
    have hadd : Draft.add ⟨frames.map (·.name), plug frames inner⟩ (.pair [pair.1] pair.2) =
        some ⟨frames.map (·.name), plug frames (inner ++ [pair])⟩ := by
      rw [Draft.add, Entries.updateAt_plug _ hfresh, Entries.putPair_concat hpair]
      rfl
    rw [hsplit] at hnames ⊢
    rw [List.map_cons, List.foldlM_cons, hadd, Option.bind_eq_bind, Option.bind_some]
    exact ih hnames

/-- A section whose header opens a new table puts its pairs there. -/
theorem foldlM_add_section {draft : Draft} {frames : List Frame} {pairs : Entries}
    (hfresh : ∀ frame ∈ frames, frame.Fresh) (hpairs : pairs.names.Nodup)
    (hopen : draft.entries.openTable (frames.map (·.name)) = some (plug frames [])) :
    (sectionStatements (frames.map (·.name)) pairs).foldlM Draft.add draft =
      some ⟨frames.map (·.name), plug frames pairs⟩ := by
  have hadd : Draft.add draft (.header (frames.map (·.name))) =
      some ⟨frames.map (·.name), plug frames []⟩ := by
    rw [Draft.add, hopen, Option.map_some]
  rw [sectionStatements, List.foldlM_cons, hadd, Option.bind_eq_bind, Option.bind_some]
  exact foldlM_add_pairs hfresh hpairs

/-- Tables with headers as entries of the table above them. -/
def tableEntries (tables : List (String × Entries)) : Entries :=
  tables.map fun table => (table.1, .table .header table.2)

theorem names_tableEntries (tables : List (String × Entries)) :
    (tableEntries tables).names = tables.map (·.1) := by
  rw [Entries.names, tableEntries, List.map_map]
  rfl

/-- Entries with tables below a further one, which is there only if they are. -/
def withTables (entries : Entries) (parent : String) (tables : List (String × Entries)) :
    Entries :=
  if tables.isEmpty then entries
  else entries ++ [(parent, .table .implicit (tableEntries tables))]

/-- The frames down to a table below the further one. -/
def tableFrames (entries : Entries) (parent : String) (done : List (String × Entries))
    (name : String) : List Frame :=
  [⟨entries, parent, .implicit⟩, ⟨tableEntries done, name, .header⟩]

theorem plug_tableFrames (entries : Entries) (parent : String) (done : List (String × Entries))
    (table : String × Entries) :
    plug (tableFrames entries parent done table.1) table.2 =
      withTables entries parent (done ++ [table]) := by
  simp [plug, tableFrames, withTables, tableEntries]

theorem openTable_withTables {entries : Entries} {parent name : String}
    {done : List (String × Entries)} (hparent : parent ∉ entries.names)
    (hname : name ∉ done.map (·.1)) :
    (withTables entries parent done).openTable [parent, name] =
      some (plug (tableFrames entries parent done name) []) := by
  cases done with
  | nil =>
    rw [withTables, List.isEmpty_nil, if_pos rfl, Entries.openTable, Entries.get?_eq_none hparent]
    rfl
  | cons table done =>
    rw [← names_tableEntries] at hname
    rw [withTables, List.isEmpty_cons, if_neg (by decide), Entries.openTable,
      Entries.get?_concat hparent]
    simp only [Entries.replace_concat hparent, Entries.openTable, Entries.get?_eq_none hname]
    rfl

/-- Sections below a further table fill it one after the other. -/
theorem foldlM_add_tables {draft : Draft} {entries : Entries} {parent : String}
    (done : List (String × Entries)) {tables : List (String × Entries)}
    (hparent : parent ∉ entries.names) (hnames : ((done ++ tables).map (·.1)).Nodup)
    (hpairs : ∀ table ∈ tables, (Entries.names table.2).Nodup)
    (hdraft : draft.entries = withTables entries parent done) :
    ((tables.flatMap fun table => sectionStatements [parent, table.1] table.2).foldlM Draft.add
      draft).map (·.entries) = some (withTables entries parent (done ++ tables)) := by
  induction tables generalizing draft done with
  | nil => simp [hdraft]
  | cons table tables ih =>
    obtain ⟨htable, htables⟩ := List.forall_mem_cons.1 hpairs
    have hsplit : done ++ table :: tables = (done ++ [table]) ++ tables := List.append_cons _ _ _
    have hname : table.1 ∉ done.map (·.1) := by
      rw [List.map_append] at hnames
      exact not_mem_of_nodup_append_cons hnames
    have hfresh : ∀ frame ∈ tableFrames entries parent done table.1, frame.Fresh := by
      rw [← names_tableEntries] at hname
      simpa [tableFrames, Frame.Fresh] using ⟨hparent, hname⟩
    have hopen : draft.entries.openTable [parent, table.1] =
        some (plug (tableFrames entries parent done table.1) []) := by
      rw [hdraft]
      exact openTable_withTables hparent hname
    have hsection : (sectionStatements [parent, table.1] table.2).foldlM Draft.add draft =
        some ⟨[parent, table.1], withTables entries parent (done ++ [table])⟩ := by
      rw [← plug_tableFrames]
      exact foldlM_add_section hfresh htable hopen
    rw [hsplit] at hnames ⊢
    rw [List.flatMap_cons, List.foldlM_append, hsection, Option.bind_eq_bind, Option.bind_some]
    exact ih _ hnames htables rfl

end FilterQuery.Toml

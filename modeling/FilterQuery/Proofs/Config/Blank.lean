import FilterQuery.Config.Keys
import FilterQuery.Config.Template
import FilterQuery.Proofs.Config.Discovery
import FilterQuery.Proofs.Config.Merging
import FilterQuery.Proofs.Toml.Lines
import Mathlib.Data.List.Forall2

/-!
# Files that configure nothing

A file in which every line is empty or a comment is well formed and gives nothing, nor is it a root.
Such a file can be added anywhere: it is found where it applies, but what is merged is the same with
and without it.
-/

namespace FilterQuery

/-! ## Comments -/

/-- The line may be made a comment: it holds no control characters, tabs apart. -/
def PlainLine (line : String) : Prop :=
  ∀ c ∈ line.toList, Toml.isControl c = false

/-- A line is checked by its characters, which need not be decoded from its bytes first. -/
theorem plainLine_ofList {line : String} {chars : List Char} (hline : line = String.ofList chars)
    (hchars : chars.all (!Toml.isControl ·) = true) : PlainLine line := by
  subst hline
  simpa [PlainLine] using hchars

/-- A line that is made a comment starts as one, and holds what it held before. -/
theorem commentLine_cases (line : String) :
    (commentLine line).toList = [] ∨
      ∃ rest, (commentLine line).toList = '#' :: rest ∧ ∀ c ∈ rest, c = ' ' ∨ c ∈ line.toList := by
  by_cases hempty : line = ""
  · left
    subst hempty
    rfl
  · right
    by_cases hhash : "#".isPrefixOf line = true
    · obtain ⟨rest, hrest⟩ := String.startsWith_string_iff.1 hhash
      have hline : commentLine line = line := if_pos (by simp [hhash])
      refine ⟨rest, by rw [hline, ← hrest]; rfl, fun c hc => .inr ?_⟩
      rw [← hrest]
      exact List.mem_append_right _ hc
    · have hline : commentLine line = "# " ++ line := if_neg (by simp [hempty, hhash])
      refine ⟨' ' :: line.toList, by simp [hline], fun c hc => ?_⟩
      exact List.mem_cons.1 hc

theorem readsAs_commentLine {line : String} (hline : PlainLine line) :
    Toml.ReadsAs (commentLine line).toList [] := by
  rcases commentLine_cases line with hempty | ⟨rest, hcomment, hrest⟩
  · rw [hempty]
    exact Toml.readsAs_nil
  · rw [hcomment]
    apply Toml.readsAs_comment
    intro c hc
    rcases hrest c hc with rfl | hmem
    · rfl
    · exact hline c hmem

/-- Whatever some lines say, made comments they say nothing. -/
theorem ConfigFile.read?_commentLines {lines : List String}
    (hlines : ∀ line ∈ lines, PlainLine line) :
    read? (Text.unlines (lines.map commentLine)) = some {} := by
  have hreads : List.Forall₂ Toml.ReadsAs ((lines.map commentLine).map String.toList)
      (lines.map fun _ => []) := by
    rw [List.map_map, List.forall₂_map_left_iff, List.forall₂_map_right_iff, List.forall₂_same]
    exact fun line hline => readsAs_commentLine (hlines line hline)
  have hmark : (Text.unlines (lines.map commentLine)).toList.head? ≠ some '\uFEFF' := by
    rw [Text.toList_unlines]
    cases lines with
    | nil => simp
    | cons line rest =>
      rcases commentLine_cases line with hempty | ⟨inside, hcomment, _⟩
      · simp [hempty]
      · simp [hcomment]
  have hnothing : (lines.map fun _ => ([] : List Toml.Statement)).flatten = [] := by simp
  rw [read?, Toml.read?_unlines hreads hmark, hnothing]
  rfl

theorem read?_localTemplate : ConfigFile.read? localTemplate = some {} := by
  apply ConfigFile.read?_commentLines
  simp only [localExample, List.forall_mem_cons, List.not_mem_nil, false_implies, implies_true,
    and_true]
  and_intros
  all_goals exact plainLine_ofList rfl rfl

theorem read?_globalTemplate : ConfigFile.read? globalTemplate = some {} := by
  apply ConfigFile.read?_commentLines
  simp only [globalExample, List.forall_mem_cons, List.not_mem_nil, false_implies, implies_true,
    and_true]
  and_intros
  all_goals exact plainLine_ofList rfl rfl

/-! ## Merging -/

/-- The file gives nothing and is no root. -/
def NamedFile.isBlank (file : NamedFile) : Bool :=
  file.content = {}

/-- Some files without those that give nothing. -/
def NamedFile.withoutBlank (files : List NamedFile) : List NamedFile :=
  files.filter (!·.isBlank)

/-- The settings and keys in force, whichever files they are merged from. Keys tell their sources. -/
def Config.inForce (config : Config) : Settings × NameMap KeyDefinition :=
  (config.settings, config.keys)

open NamedFile (withoutBlank)

theorem Settings.merge_withoutBlank (files : List NamedFile) :
    merge (withoutBlank files) = merge files := by
  induction files with
  | nil => rfl
  | cons file farther ih =>
    rw [withoutBlank] at ih ⊢
    cases hblank : file.isBlank with
    | true =>
      have hcontent : file.content = {} := of_decide_eq_true hblank
      rw [List.filter_cons_of_neg (by simp [hblank]), ih, merge, hcontent]
      exact (bind_pure _).symm
    | false => rw [List.filter_cons_of_pos (by simp [hblank]), merge, merge, ih]

theorem KeyDefinition.merge_withoutBlank (files : List NamedFile) :
    merge (withoutBlank files) = merge files := by
  rw [merge, withoutBlank, List.foldlM_filter, merge]
  congr 1
  funext keys file
  cases hblank : file.isBlank with
  | false => rfl
  | true =>
    have hcontent : file.content = {} := of_decide_eq_true hblank
    rw [hcontent]
    rfl

/-- The settings and keys of a merge are merged apart from each other. -/
theorem Config.inForce_merge (files : List NamedFile) :
    inForce <$> merge files = do
      let settings ← Settings.merge files
      let keys ← KeyDefinition.merge files
      return (settings, keys) := by
  rw [merge]
  cases Settings.merge files with
  | error fault => rfl
  | ok settings =>
    cases KeyDefinition.merge files with
    | error fault => rfl
    | ok keys => rfl

theorem Config.inForce_merge_withoutBlank (files : List NamedFile) :
    inForce <$> merge (withoutBlank files) = inForce <$> merge files := by
  rw [inForce_merge, inForce_merge, Settings.merge_withoutBlank, KeyDefinition.merge_withoutBlank]

/-- The compiler depends on nothing but what is in force. -/
theorem Compiler.ofConfig_congr {left right : Except ConfigFault Config}
    (hsame : Config.inForce <$> left = Config.inForce <$> right) :
    left >>= ofConfig = right >>= ofConfig := by
  cases right with
  | error fault =>
    rw [map_eq_error_iff.1 hsame]
  | ok config =>
    obtain ⟨other, hother, hinForce⟩ := map_eq_ok_iff.1 hsame
    obtain ⟨hsettings, hkeys⟩ := Prod.mk.inj hinForce
    subst hother
    change ofConfig other = ofConfig config
    rw [ofConfig, ofConfig, KeyTable.ofConfig, KeyTable.ofConfig, hsettings, hkeys]

/-! ## Adding to a tree -/

namespace FileTree

variable {tree written : FileTree} {path : Path}

/-- Files that give nothing can be left out before the others are merged. -/
theorem inForce_loadFiles (tree : FileTree) (paths : List Path) :
    Config.inForce <$> tree.loadFiles paths =
      (withoutBlank <$> paths.mapM tree.loadFile) >>= (Config.inForce <$> Config.merge ·) := by
  rw [loadFiles]
  cases paths.mapM tree.loadFile with
  | error fault => rfl
  | ok files => exact (Config.inForce_merge_withoutBlank files).symm

/-- A tree holds what another one holds, and besides only files that give nothing. -/
def AddsBlank (tree written : FileTree) : Prop :=
  ∀ path, written.find? path = tree.find? path ∨
    tree.find? path = none ∧ ∃ text, written.find? path = some (.text text) ∧
      ConfigFile.read? text = some {}

theorem addsBlank_put {free : Location} {text : String} (hfree : tree.lookup? free = none)
    (hread : ConfigFile.read? text = some {}) : AddsBlank tree (tree.put free (.text text)) := by
  intro path
  apply (find?_put hfree (by simp) path).imp_right
  rintro ⟨hbefore, hafter⟩
  exact ⟨hbefore, text, hafter, hread⟩

namespace AddsBlank

variable (hadds : AddsBlank tree written)

include hadds

/-- Files that were there stay what they were. -/
theorem find?_eq (hfile : tree.isFile path = true) : written.find? path = tree.find? path := by
  rcases hadds path with hsame | ⟨hnone, _⟩
  · exact hsame
  · obtain ⟨entry, hentry, _⟩ := isFile_eq_true_iff.1 hfile
    rw [hnone] at hentry
    cases hentry

theorem isFile_of_isFile (hfile : tree.isFile path = true) : written.isFile path = true := by
  rw [isFile_congr (hadds.find?_eq hfile), hfile]

theorem loadFile_eq (hfile : tree.isFile path = true) :
    written.loadFile path = tree.loadFile path :=
  loadFile_congr (hadds.find?_eq hfile) (hadds.isFile_of_isFile hfile)

theorem isRootConfig_eq (hfile : tree.isFile path = true) :
    written.isRootConfig path = tree.isRootConfig path :=
  isRootConfig_congr (hadds.find?_eq hfile) (hadds.isFile_of_isFile hfile)

/-- Files that were not there before give nothing. -/
theorem loadFile_of_added (hwritten : written.isFile path = true)
    (hbefore : ¬ tree.isFile path = true) : written.loadFile path = .ok ⟨path.text, {}⟩ := by
  rcases hadds path with hsame | ⟨_, text, hafter, hread⟩
  · exact absurd (isFile_congr hsame ▸ hwritten) hbefore
  · exact loadFile_of_text hafter hread

theorem not_isRootConfig_of_added (hwritten : written.isFile path = true)
    (hbefore : ¬ tree.isFile path = true) : ¬ written.isRootConfig path = true := by
  rw [isRootConfig, hadds.loadFile_of_added hwritten hbefore]
  exact Bool.false_ne_true

/-- The search ends where it did, and finds what it did besides the files that were added. -/
theorem upToRoot_eq (paths : List Path) :
    ((written.upToRoot paths).1.filter tree.isFile, (written.upToRoot paths).2) =
      tree.upToRoot paths := by
  fun_induction tree.upToRoot paths with
  | case1 => rfl
  | case2 path rest hfile hroot =>
    rw [upToRoot_of_isRootConfig (hadds.isFile_of_isFile hfile)
        (hadds.isRootConfig_eq hfile ▸ hroot), List.filter_cons_of_pos hfile, List.filter_nil]
  | case3 path rest hfile hroot found rooted hfound ih =>
    rw [hfound, Prod.mk.injEq] at ih
    rw [upToRoot_of_not_isRootConfig (hadds.isFile_of_isFile hfile)
        (hadds.isRootConfig_eq hfile ▸ hroot), List.filter_cons_of_pos hfile, ih.1, ih.2]
  | case4 path rest hfile ih =>
    rw [← ih]
    by_cases hwritten : written.isFile path = true
    · -- A file that was added is no root: the search goes on behind it.
      have hroot := hadds.not_isRootConfig_of_added hwritten hfile
      rw [upToRoot_of_not_isRootConfig hwritten hroot, List.filter_cons_of_neg hfile]
    · rw [upToRoot_of_not_isFile hwritten]

/-- The file in the home directory is found among the candidates if it was before. -/
theorem any_isSame_eq {target : Path} (htarget : tree.isFile target = true) (directory : Path) :
    (tree.upToRoot (candidates directory)).1.any target.isSame =
      (written.upToRoot (candidates directory)).1.any target.isSame := by
  rw [← hadds.upToRoot_eq, List.any_filter, Bool.eq_iff_iff]
  simp only [List.any_eq_true, Bool.and_eq_true]
  apply exists_congr
  intro path
  apply and_congr_right
  intro hpath
  obtain ⟨hcandidate, hwritten⟩ := mem_upToRoot hpath
  obtain ⟨around, _, hconfig⟩ := List.mem_map.1 hcandidate
  have htrailing : path.trailing = "" := hconfig ▸ rfl
  exact and_iff_right_of_imp fun hsame =>
    isFile_of_isSame hsame htarget hwritten htrailing

/-- The files that apply are those that did, with files that give nothing between them. -/
theorem discover_eq (home : Option Path) (directory : Path) :
    (written.discover home directory).filter tree.isFile = tree.discover home directory := by
  have hfound := hadds.upToRoot_eq (candidates directory)
  rw [discover, discover]
  cases hwritten : written.upToRoot (candidates directory) with
  | mk found rooted =>
    rw [hwritten] at hfound
    rw [← hfound]
    cases rooted with
    | true => rfl
    | false =>
      cases home with
      | none => rfl
      | some home =>
        -- Whether the file at home is found twice must not hang on the files that were added.
        by_cases htarget : tree.isFile (configIn home) = true
        · have hany := hadds.any_isSame_eq htarget directory
          rw [hwritten, ← hfound] at hany
          simp only [htarget, hadds.isFile_of_isFile htarget, hany]
          split
          · rw [List.filter_append, List.filter_cons_of_pos htarget, List.filter_nil]
          · rfl
        · simp only [htarget, Bool.false_and, Bool.false_eq_true, if_false]
          split
          · rw [List.filter_append, List.filter_cons_of_neg htarget, List.filter_nil,
              List.append_nil]
          · rfl

theorem mapM_loadFile_eq (home : Option Path) (directory : Path) :
    withoutBlank <$> (written.discover home directory).mapM written.loadFile =
      withoutBlank <$> (tree.discover home directory).mapM tree.loadFile := by
  rw [← hadds.discover_eq]
  apply map_filter_mapM
  · intro path _ hfile
    exact hadds.loadFile_eq hfile
  · intro path hpath hfile
    have hwritten := isFile_of_mem_discover hpath
    exact ⟨_, hadds.loadFile_of_added hwritten (by simp [hfile]), rfl⟩

/-- What is in force stays the same, and so does what is wrong. -/
theorem inForce_loadConfig_eq (home : Option Path) (directory : Path) :
    Config.inForce <$> written.loadConfig home directory =
      Config.inForce <$> tree.loadConfig home directory := by
  rw [loadConfig, loadConfig, inForce_loadFiles, hadds.mapM_loadFile_eq, ← inForce_loadFiles]

end AddsBlank

end FileTree

end FilterQuery

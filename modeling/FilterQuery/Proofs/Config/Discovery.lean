import FilterQuery.Config.Discovery
import FilterQuery.Proofs.FileTree

/-!
# Where the search for configurations ends

Which files apply to a directory is found out by looking at its candidates up to the first that is
marked as root. Only these candidates matter where there is a root: neither the files around it nor
the file in the home directory are looked at.
-/

namespace FilterQuery.FileTree

variable {tree other : FileTree} {home : Option Path} {directory root path : Path}
  {paths inner outer : List Path}

/-- Two trees hold the same at some paths. -/
def AgreeOn (paths : List Path) (tree other : FileTree) : Prop :=
  ∀ path ∈ paths, tree.find? path = other.find? path

/-- A well-formed configuration that is marked as root stands at a path. -/
def HoldsRoot (tree : FileTree) (path : Path) : Prop :=
  ∃ text file, tree.find? path = some (.text text) ∧ ConfigFile.read? text = some file ∧
    file.root = some true

/-! ## Looking at a candidate -/

theorem loadFile_congr (hfind : tree.find? path = other.find? path)
    (hfile : tree.isFile path = true) : tree.loadFile path = other.loadFile path := by
  rw [loadFile, loadFile, read_congr hfind hfile]

theorem isRootConfig_congr (hfind : tree.find? path = other.find? path)
    (hfile : tree.isFile path = true) : tree.isRootConfig path = other.isRootConfig path := by
  rw [isRootConfig, isRootConfig, loadFile_congr hfind hfile]

theorem isFile_of_text {text : String} (hfind : tree.find? path = some (.text text)) :
    tree.isFile path = true := by
  rw [isFile, hfind]

theorem loadFile_of_text {text : String} {file : ConfigFile}
    (hfind : tree.find? path = some (.text text)) (hread : ConfigFile.read? text = some file) :
    tree.loadFile path = .ok ⟨path.text, file⟩ := by
  rw [loadFile, read_of_find? hfind]
  simp only [FileEntry.content, hread]

theorem isRootConfig_of_holdsRoot (hroot : tree.HoldsRoot path) :
    tree.isRootConfig path = true := by
  obtain ⟨text, file, hfind, hread, hmarked⟩ := hroot
  rw [isRootConfig, loadFile_of_text hfind hread]
  exact beq_iff_eq.2 hmarked

theorem isFile_of_holdsRoot (hroot : tree.HoldsRoot path) : tree.isFile path = true := by
  obtain ⟨text, file, hfind, _⟩ := hroot
  exact isFile_of_text hfind

theorem holdsRoot_congr (hfind : tree.find? path = other.find? path)
    (hroot : tree.HoldsRoot path) : other.HoldsRoot path := by
  obtain ⟨text, file, htext, hread, hmarked⟩ := hroot
  exact ⟨text, file, hfind ▸ htext, hread, hmarked⟩

/-! ## Looking at candidates in order -/

theorem upToRoot_of_not_isFile (hfile : ¬ tree.isFile path = true) (rest : List Path) :
    tree.upToRoot (path :: rest) = tree.upToRoot rest :=
  if_neg hfile

theorem upToRoot_of_isRootConfig (hfile : tree.isFile path = true)
    (hroot : tree.isRootConfig path = true) (rest : List Path) :
    tree.upToRoot (path :: rest) = ([path], true) := by
  rw [upToRoot, if_pos hfile, if_pos hroot]

theorem upToRoot_of_not_isRootConfig (hfile : tree.isFile path = true)
    (hroot : ¬ tree.isRootConfig path = true) (rest : List Path) :
    tree.upToRoot (path :: rest) =
      (path :: (tree.upToRoot rest).1, (tree.upToRoot rest).2) := by
  rw [upToRoot, if_pos hfile, if_neg hroot]

theorem upToRoot_congr (hagree : AgreeOn paths tree other) :
    tree.upToRoot paths = other.upToRoot paths := by
  induction paths with
  | nil => rfl
  | cons path rest ih =>
    obtain ⟨hfind, hrest⟩ := List.forall_mem_cons.1 hagree
    have hfiles := isFile_congr hfind
    by_cases hfile : tree.isFile path = true
    · have hroots := isRootConfig_congr hfind hfile
      rw [upToRoot, upToRoot, ← hfiles, ← hroots, ih hrest]
    · rw [upToRoot_of_not_isFile hfile, upToRoot_of_not_isFile (hfiles ▸ hfile), ih hrest]

theorem mem_upToRoot (hpath : path ∈ (tree.upToRoot paths).1) :
    path ∈ paths ∧ tree.isFile path = true := by
  fun_induction tree.upToRoot paths with
  | case1 => cases hpath
  | case2 candidate rest hfile hroot =>
    rw [List.mem_singleton.1 hpath]
    exact ⟨List.mem_cons_self, hfile⟩
  | case3 candidate rest hfile hroot found rooted hfound ih =>
    rw [hfound] at ih
    rcases List.mem_cons.1 hpath with rfl | hmem
    · exact ⟨List.mem_cons_self, hfile⟩
    · exact (ih hmem).imp_left (List.mem_cons_of_mem _)
  | case4 candidate rest hfile ih => exact (ih hpath).imp_left (List.mem_cons_of_mem _)

/-- Nothing is looked at behind a root. -/
theorem upToRoot_append_of_rooted (hrooted : (tree.upToRoot paths).2 = true) (outer : List Path) :
    tree.upToRoot (paths ++ outer) = tree.upToRoot paths := by
  fun_induction tree.upToRoot paths with
  | case1 => cases hrooted
  | case2 candidate rest hfile hroot =>
    rw [List.cons_append, upToRoot_of_isRootConfig hfile hroot]
  | case3 candidate rest hfile hroot found rooted hfound ih =>
    rw [hfound] at ih
    rw [List.cons_append, upToRoot_of_not_isRootConfig hfile hroot, ih hrooted]
  | case4 candidate rest hfile ih =>
    rw [List.cons_append, upToRoot_of_not_isFile hfile, ih hrooted]

/-- The search ends at a root, if not before. -/
theorem rooted_of_mem (hroot : tree.HoldsRoot root) (hmem : root ∈ paths) :
    (tree.upToRoot paths).2 = true := by
  have hisFile := isFile_of_holdsRoot hroot
  have hmarked := isRootConfig_of_holdsRoot hroot
  fun_induction tree.upToRoot paths with
  | case1 => cases hmem
  | case2 candidate rest hfile hroot => rfl
  | case3 candidate rest hfile hunmarked found rooted hfound ih =>
    rw [hfound] at ih
    apply ih
    exact (List.mem_cons.1 hmem).resolve_left fun heq => hunmarked (heq ▸ hmarked)
  | case4 candidate rest hmissing ih =>
    apply ih
    exact (List.mem_cons.1 hmem).resolve_left fun heq => hmissing (heq ▸ hisFile)

/-! ## Loading what is found -/

/-- The home directory is not looked at where there is a root. -/
theorem discover_of_rooted (hrooted : (tree.upToRoot (candidates directory)).2 = true) :
    tree.discover home directory = (tree.upToRoot (candidates directory)).1 := by
  rw [discover]
  cases hfound : tree.upToRoot (candidates directory) with
  | mk found rooted =>
    rw [hfound] at hrooted
    cases hrooted
    rfl

/-- The search ends within the candidates up to a root. -/
theorem discover_of_root (hancestors : directory.ancestors = inner ++ root :: outer)
    (hroot : tree.HoldsRoot (configIn root)) :
    tree.discover home directory = (tree.upToRoot ((inner ++ [root]).map configIn)).1 := by
  have hmem : configIn root ∈ (inner ++ [root]).map configIn := List.mem_map_of_mem (by simp)
  have hrooted := rooted_of_mem hroot hmem
  have hcandidates :
      candidates directory = (inner ++ [root]).map configIn ++ outer.map configIn := by
    simp [candidates, hancestors]
  have hends : tree.upToRoot (candidates directory) =
      tree.upToRoot ((inner ++ [root]).map configIn) := by
    rw [hcandidates, upToRoot_append_of_rooted hrooted]
  rw [discover_of_rooted (hends ▸ hrooted), hends]

/-- At most the file in the home directory is found besides the candidates. -/
theorem mem_discover (hpath : path ∈ tree.discover home directory) :
    path ∈ (tree.upToRoot (candidates directory)).1 ∨
      tree.isFile path = true ∧ ∃ place, home = some place ∧ path = configIn place := by
  rw [discover] at hpath
  split at hpath
  · next hfound => exact .inl (by rwa [hfound])
  · next hfound =>
    rw [hfound]
    split at hpath
    · exact .inl hpath
    · split at hpath
      · next hhome =>
        rcases List.mem_append.1 hpath with hmem | hmem
        · exact .inl hmem
        · have hconfig := List.mem_singleton.1 hmem
          exact .inr ⟨hconfig ▸ (Bool.and_eq_true _ _ ▸ hhome).1, _, rfl, hconfig⟩
      · exact .inl hpath

theorem isFile_of_mem_discover (hpath : path ∈ tree.discover home directory) :
    tree.isFile path = true := by
  rcases mem_discover hpath with hfound | ⟨hfile, _⟩
  · exact (mem_upToRoot hfound).2
  · exact hfile

theorem loadFiles_congr (hagree : AgreeOn paths tree other)
    (hfiles : ∀ path ∈ paths, tree.isFile path = true) :
    tree.loadFiles paths = other.loadFiles paths := by
  have hload : ∀ path ∈ paths, tree.loadFile path = other.loadFile path :=
    fun path hpath => loadFile_congr (hagree path hpath) (hfiles path hpath)
  rw [loadFiles, loadFiles, mapM_congr hload]

/-- The configuration of a directory depends on nothing but the candidates up to a root. -/
theorem loadConfig_eq_of_agreeOn (hancestors : directory.ancestors = inner ++ root :: outer)
    (hroot : tree.HoldsRoot (configIn root))
    (hagree : AgreeOn ((inner ++ [root]).map configIn) tree other)
    (home otherHome : Option Path) :
    tree.loadConfig home directory = other.loadConfig otherHome directory := by
  have hmem : configIn root ∈ (inner ++ [root]).map configIn := List.mem_map_of_mem (by simp)
  have hother : other.HoldsRoot (configIn root) := holdsRoot_congr (hagree _ hmem) hroot
  rw [loadConfig, loadConfig, discover_of_root hancestors hroot,
    discover_of_root hancestors hother, ← upToRoot_congr hagree]
  apply loadFiles_congr
  · intro path hpath
    exact hagree path (mem_upToRoot hpath).1
  · intro path hpath
    exact (mem_upToRoot hpath).2

/-- What stands around a project and at home is of no matter, malformed or not. -/
theorem loadConfig_eq_of_agreeOn_project :
    let project : List (Location × FileEntry) :=
      [(["srv"], .directory), (["app", "srv"], .directory), (["src", "app", "srv"], .directory),
        ([".sift.toml", "app", "srv"], .text "root = true\n"),
        ([".sift.toml", "src", "app", "srv"], .text "[settings]\nmax_depth = 8\n")]
    let alone : FileTree := ⟨project⟩
    let amid : FileTree :=
      ⟨project ++ [([".sift.toml", "srv"], .text "[settings]\nmax_depth = 900\n"),
        ([".sift.toml"], .text "root")]⟩
    let directory := Path.ofText "/srv/app/src"
    let root := Path.ofText "/srv/app"
    (directory.ancestors = [directory] ++ root :: [Path.ofText "/srv", Path.ofText "/"] ∧
        alone.HoldsRoot (configIn root) ∧
        AgreeOn (([directory] ++ [root]).map configIn) alone amid) ∧
      alone.loadConfig none directory = amid.loadConfig (some (Path.ofText "/")) directory := by
  intro project alone amid directory root
  have hancestors :
      directory.ancestors = [directory] ++ root :: [Path.ofText "/srv", Path.ofText "/"] := by
    decide +kernel
  have hroot : alone.HoldsRoot (configIn root) :=
    ⟨"root = true\n", { root := some true }, by decide +kernel, by decide +kernel, rfl⟩
  have hagree : AgreeOn (([directory] ++ [root]).map configIn) alone amid := by
    rw [AgreeOn]
    decide +kernel
  exact ⟨⟨hancestors, hroot, hagree⟩, loadConfig_eq_of_agreeOn hancestors hroot hagree none _⟩

end FilterQuery.FileTree

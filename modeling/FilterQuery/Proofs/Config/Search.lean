import FilterQuery.Proofs.Config.Discovery

/-!
# Which configuration files are found

Of the candidates of a directory those are found that are files, the closest first, up to the first
that is marked as root. Where none is, the file in the home directory comes last, unless it has been
found on the way. A file that cannot be read is found like any other and ends nothing.
-/

namespace FilterQuery

namespace Path

/-- The directories from a path outwards, as far as there is one around the last. -/
inductive LeadsOut : Path → List Path → Prop
  | outermost {path : Path} (hparent : path.parent? = none) : LeadsOut path [path]
  | outwards {path outer : Path} {way : List Path} (hparent : path.parent? = some outer)
      (hway : outer.LeadsOut way) : LeadsOut path (path :: way)

variable {path other third : Path}

theorem isSame_iff :
    path.isSame other = true ↔ path.isAbsolute = other.isAbsolute ∧ path.names = other.names := by
  rw [isSame, Bool.and_eq_true, beq_iff_eq, beq_iff_eq]

theorem isSame_comm (path other : Path) : path.isSame other = other.isSame path := by
  rw [Bool.eq_iff_iff, isSame_iff, isSame_iff]
  constructor <;> exact fun h => ⟨h.1.symm, h.2.symm⟩

theorem isSame_of_isSame_left (hpath : third.isSame path = true)
    (hother : third.isSame other = true) : path.isSame other = true := by
  rw [isSame_iff] at hpath hother ⊢
  exact ⟨hpath.1.symm.trans hother.1, hpath.2.symm.trans hother.2⟩

theorem length_lt_of_mem_around {isAbsolute : Bool} {parts : List PathPart}
    (hpath : path ∈ around isAbsolute parts) : path.parts.length < parts.length := by
  induction parts with
  | nil => cases hpath
  | cons part parts ih =>
    rcases List.mem_cons.1 hpath with rfl | hmem
    · exact Nat.lt_succ_self _
    · exact Nat.lt_succ_of_lt (ih hmem)

theorem pairwise_length_around (isAbsolute : Bool) (parts : List PathPart) :
    (around isAbsolute parts).Pairwise fun inner outer =>
      outer.parts.length < inner.parts.length := by
  induction parts with
  | nil => exact .nil
  | cons part parts ih =>
    exact List.pairwise_cons.2 ⟨fun outer houter => length_lt_of_mem_around houter, ih⟩

theorem leadsOut_around (path : Path) :
    path.LeadsOut (path :: around path.isAbsolute path.parts) := by
  obtain ⟨isAbsolute, parts, trailing⟩ := path
  induction parts generalizing trailing with
  | nil => exact .outermost rfl
  | cons part parts ih => exact .outwards rfl (ih "")

/-- Every directory on the way out has a shorter path than the one before. -/
theorem pairwise_length_ancestors (path : Path) :
    path.ancestors.Pairwise fun inner outer => outer.parts.length < inner.parts.length :=
  List.pairwise_cons.2
    ⟨fun _ houter => length_lt_of_mem_around houter, pairwise_length_around _ _⟩

end Path

namespace FileTree

/-- The files among the candidates on the way out of a directory, the closest first. -/
def standing (tree : FileTree) (directory : Path) : List Path :=
  (directory.ancestors.map configIn).filter tree.isFile

/-- The path is that of the file in the home directory, and none of the paths found is the same. -/
def LeftAtHome (tree : FileTree) (home : Option Path) (found : List Path) (path : Path) : Prop :=
  (∃ place, home = some place ∧ path = configIn place) ∧ tree.isFile path = true ∧
    ∀ other ∈ found, path.isSame other = false

/-- What is found for a directory. -/
structure Finds (tree : FileTree) (home : Option Path) (directory : Path) (found : List Path) :
    Prop where
  leadsOut : directory.LeadsOut directory.ancestors
  eq_of_root : ∀ inner root outer, tree.standing directory = inner ++ root :: outer →
    (∀ path ∈ inner, ¬ tree.HoldsRoot path) → tree.HoldsRoot root → found = inner ++ [root]
  eq_of_no_root : (∀ path ∈ tree.standing directory, ¬ tree.HoldsRoot path) →
    (∀ path, ¬ tree.LeftAtHome home (tree.standing directory) path) →
      found = tree.standing directory
  eq_of_left_at_home : (∀ path ∈ tree.standing directory, ¬ tree.HoldsRoot path) →
    ∀ path, tree.LeftAtHome home (tree.standing directory) path →
      found = tree.standing directory ++ [path]
  distinct : found.Pairwise fun closer farther => closer.isSame farther = false
  home_once : ∀ place, home = some place → found.countP (configIn place).isSame ≤ 1
  /-- A file that cannot be read as a configuration does not keep those behind it from being
  found. -/
  mem_of_closer : ∀ inner path outer, tree.standing directory = inner ++ path :: outer →
    (∀ closer ∈ inner, ∀ file, tree.loadFile closer = .ok file → file.content.root ≠ some true) →
      path ∈ found

variable {tree : FileTree} {home : Option Path} {directory root path : Path}
  {paths inner outer found : List Path}

/-! ## Roots -/

theorem find?_of_read {text : String} (hread : tree.read path = .ok text) :
    tree.find? path = some (.text text) := by
  obtain ⟨place, hresolve, hplace⟩ := bind_eq_ok_iff.1 hread
  rw [find?, hresolve]
  split at hplace
  · next content hlookup =>
    cases hplace
    exact hlookup
  all_goals cases hplace

theorem holdsRoot_iff :
    tree.HoldsRoot path ↔
      ∃ file, tree.loadFile path = .ok file ∧ file.content.root = some true := by
  constructor
  · rintro ⟨text, file, hfind, hread, hroot⟩
    exact ⟨_, loadFile_of_text hfind hread, hroot⟩
  · rintro ⟨file, hload, hroot⟩
    rw [loadFile] at hload
    split at hload
    · cases hload
    · next text hread =>
      split at hload
      · cases hload
      · next content hcontent =>
        cases hload
        exact ⟨text, content, find?_of_read hread, hcontent, hroot⟩

theorem isRootConfig_iff : tree.isRootConfig path = true ↔ tree.HoldsRoot path := by
  refine ⟨fun hroot => ?_, isRootConfig_of_holdsRoot⟩
  rw [isRootConfig] at hroot
  split at hroot
  · next file hload => exact holdsRoot_iff.2 ⟨file, hload, beq_iff_eq.1 hroot⟩
  · cases hroot

/-! ## The way to the first root -/

theorem upToRoot_of_no_root
    (hroots : ∀ path ∈ paths.filter tree.isFile, ¬ tree.HoldsRoot path) :
    tree.upToRoot paths = (paths.filter tree.isFile, false) := by
  induction paths with
  | nil => rfl
  | cons path rest ih =>
    by_cases hfile : tree.isFile path = true
    · rw [List.filter_cons_of_pos hfile] at hroots ⊢
      obtain ⟨hroot, hrest⟩ := List.forall_mem_cons.1 hroots
      rw [upToRoot_of_not_isRootConfig hfile (mt isRootConfig_iff.1 hroot), ih hrest]
    · rw [List.filter_cons_of_neg hfile] at hroots ⊢
      rw [upToRoot_of_not_isFile hfile, ih hroots]

theorem upToRoot_of_first_root (hfiles : paths.filter tree.isFile = inner ++ root :: outer)
    (hinner : ∀ path ∈ inner, ¬ tree.HoldsRoot path) (hroot : tree.HoldsRoot root) :
    tree.upToRoot paths = (inner ++ [root], true) := by
  induction paths generalizing inner with
  | nil => exact absurd hfiles (by simp)
  | cons path rest ih =>
    by_cases hfile : tree.isFile path = true
    · rw [List.filter_cons_of_pos hfile] at hfiles
      cases inner with
      | nil =>
        obtain ⟨rfl, _⟩ := List.cons.inj hfiles
        exact upToRoot_of_isRootConfig hfile (isRootConfig_iff.2 hroot) rest
      | cons closer inner =>
        obtain ⟨rfl, hrest⟩ := List.cons.inj hfiles
        obtain ⟨hcloser, hothers⟩ := List.forall_mem_cons.1 hinner
        rw [upToRoot_of_not_isRootConfig hfile (mt isRootConfig_iff.1 hcloser), ih hrest hothers]
        rfl
    · rw [List.filter_cons_of_neg hfile] at hfiles
      rw [upToRoot_of_not_isFile hfile, ih hfiles hinner]

/-! ## The file at home -/

theorem LeftAtHome.eq {other : Path} (hpath : tree.LeftAtHome home found path)
    (hother : tree.LeftAtHome home found other) : path = other := by
  obtain ⟨⟨place, hplace, rfl⟩, _⟩ := hpath
  obtain ⟨⟨otherPlace, hotherPlace, rfl⟩, _⟩ := hother
  rw [hplace] at hotherPlace
  cases hotherPlace
  rfl

theorem leftAtHome_iff {place : Path} :
    tree.LeftAtHome (some place) found path ↔
      path = configIn place ∧
        (tree.isFile (configIn place) && !found.any (configIn place).isSame) = true := by
  simp only [LeftAtHome, Option.some.injEq, exists_eq_left', Bool.and_eq_true, Bool.not_eq_true',
    List.any_eq_false, Bool.not_eq_true]
  constructor
  · rintro ⟨rfl, hleft⟩
    exact ⟨rfl, hleft⟩
  · rintro ⟨rfl, hleft⟩
    exact ⟨rfl, hleft⟩

theorem discover_of_unrooted (hfound : tree.upToRoot (candidates directory) = (found, false)) :
    (∀ path, ¬ tree.LeftAtHome home found path) ∧ tree.discover home directory = found ∨
      ∃ path, tree.LeftAtHome home found path ∧
        tree.discover home directory = found ++ [path] := by
  rw [discover, hfound]
  cases home with
  | none =>
    refine .inl ⟨?_, rfl⟩
    rintro path ⟨⟨place, hplace, _⟩, _⟩
    cases hplace
  | some place =>
    by_cases hleft :
        (tree.isFile (configIn place) && !found.any (configIn place).isSame) = true
    · exact .inr ⟨configIn place, leftAtHome_iff.2 ⟨rfl, hleft⟩, if_pos hleft⟩
    · exact .inl ⟨fun path hpath => hleft (leftAtHome_iff.1 hpath).2, if_neg hleft⟩

theorem discover_of_first_root (hfiles : tree.standing directory = inner ++ root :: outer)
    (hinner : ∀ path ∈ inner, ¬ tree.HoldsRoot path) (hroot : tree.HoldsRoot root) :
    tree.discover home directory = inner ++ [root] := by
  have hfound : tree.upToRoot (candidates directory) = (inner ++ [root], true) :=
    upToRoot_of_first_root hfiles hinner hroot
  have hrooted : (tree.upToRoot (candidates directory)).2 = true := by rw [hfound]
  rw [discover_of_rooted hrooted, hfound]

/-- Either a root ends what is found, or all files are found and the one at home may follow. -/
theorem discover_cases (tree : FileTree) (home : Option Path) (directory : Path) :
    (∃ inner root outer, tree.standing directory = inner ++ root :: outer ∧
        (∀ path ∈ inner, ¬ tree.HoldsRoot path) ∧ tree.HoldsRoot root ∧
          tree.discover home directory = inner ++ [root]) ∨
      (∀ path ∈ tree.standing directory, ¬ tree.HoldsRoot path) ∧
        ((∀ path, ¬ tree.LeftAtHome home (tree.standing directory) path) ∧
            tree.discover home directory = tree.standing directory ∨
          ∃ path, tree.LeftAtHome home (tree.standing directory) path ∧
            tree.discover home directory = tree.standing directory ++ [path]) := by
  cases hfirst : (tree.standing directory).find? tree.isRootConfig with
  | some root =>
    obtain ⟨hroot, inner, outer, hfiles, hinner⟩ := List.find?_eq_some_iff_append.1 hfirst
    have hunmarked : ∀ path ∈ inner, ¬ tree.HoldsRoot path := by
      intro path hpath hholds
      have hmarked := hinner path hpath
      rw [isRootConfig_iff.2 hholds] at hmarked
      cases hmarked
    have hholds := isRootConfig_iff.1 hroot
    exact .inl ⟨inner, root, outer, hfiles, hunmarked, hholds,
      discover_of_first_root hfiles hunmarked hholds⟩
  | none =>
    have hroots : ∀ path ∈ tree.standing directory, ¬ tree.HoldsRoot path := by
      intro path hpath hholds
      exact List.find?_eq_none.1 hfirst path hpath (isRootConfig_iff.2 hholds)
    exact .inr ⟨hroots, discover_of_unrooted (upToRoot_of_no_root hroots)⟩

/-! ## No path twice -/

theorem pairwise_standing (tree : FileTree) (directory : Path) :
    (tree.standing directory).Pairwise fun closer farther => closer.isSame farther = false := by
  have hcandidates : (candidates directory).Pairwise fun closer farther =>
      closer.isSame farther = false := by
    refine List.pairwise_map.2 (directory.pairwise_length_ancestors.imp ?_)
    intro inner outer hshorter
    rw [Bool.eq_false_iff, Ne, Path.isSame_iff]
    rintro ⟨_, hnames⟩
    have hlength := congrArg List.length hnames
    simp only [Path.names, configIn, Path.child, List.map_cons, List.length_cons,
      List.length_map] at hlength
    omega
  exact hcandidates.filter _

theorem pairwise_discover (tree : FileTree) (home : Option Path) (directory : Path) :
    (tree.discover home directory).Pairwise fun closer farther =>
      closer.isSame farther = false := by
  have hstanding := pairwise_standing tree directory
  rcases tree.discover_cases home directory with
    ⟨inner, root, outer, hfiles, _, _, hfound⟩ | ⟨_, ⟨_, hfound⟩ | ⟨path, hleft, hfound⟩⟩
  · rw [hfiles, List.append_cons] at hstanding
    rw [hfound]
    exact (List.pairwise_append.1 hstanding).1
  · rwa [hfound]
  · rw [hfound, List.pairwise_append]
    refine ⟨hstanding, List.pairwise_singleton _ _, fun other hother last hlast => ?_⟩
    rw [List.mem_singleton.1 hlast, Path.isSame_comm]
    exact hleft.2.2 other hother

/-- Of paths that differ at most one is the same as a given one. -/
theorem countP_isSame_le (hdistinct : paths.Pairwise fun closer farther =>
    closer.isSame farther = false) (path : Path) : paths.countP path.isSame ≤ 1 := by
  induction paths with
  | nil => exact Nat.zero_le 1
  | cons first rest ih =>
    obtain ⟨hfirst, hrest⟩ := List.pairwise_cons.1 hdistinct
    by_cases hsame : path.isSame first = true
    · have hothers : rest.countP path.isSame = 0 := by
        refine List.countP_eq_zero.2 fun other hother hagain => ?_
        have htwice := Path.isSame_of_isSame_left hsame hagain
        rw [hfirst other hother] at htwice
        cases htwice
      exact Nat.le_of_eq (by rw [List.countP_cons_of_pos hsame, hothers])
    · rw [List.countP_cons_of_neg hsame]
      exact ih hrest

/-- A file with no root in front of it is found. -/
theorem mem_discover_of_closer (home : Option Path)
    (hfiles : tree.standing directory = inner ++ path :: outer)
    (hinner : ∀ closer ∈ inner, ¬ tree.HoldsRoot closer) :
    path ∈ tree.discover home directory := by
  have hpath : path ∈ tree.standing directory := by simp [hfiles]
  rcases tree.discover_cases home directory with
    ⟨front, root, back, hroots, _, hroot, hfound⟩ | ⟨_, ⟨_, hfound⟩ | ⟨last, _, hfound⟩⟩
  · rw [hfound]
    rw [hfiles, List.append_eq_append_iff] at hroots
    rcases hroots with ⟨between, rfl, hback⟩ | ⟨between, rfl, hback⟩
    · -- The root stands at the path or behind it.
      cases between with
      | nil =>
        obtain ⟨rfl, _⟩ := List.cons.inj hback
        simp
      | cons next between =>
        obtain ⟨rfl, _⟩ := List.cons.inj hback
        simp
    · cases between with
      | nil =>
        obtain ⟨rfl, _⟩ := List.cons.inj hback
        simp
      | cons next between =>
        obtain ⟨rfl, _⟩ := List.cons.inj hback
        exact absurd hroot (hinner root (by simp))
  · rwa [hfound]
  · rw [hfound]
    exact List.mem_append_left _ hpath

/-- What is found for a directory, in every file tree and wherever home is. Paths are compared by the
names they are written with and not by where they lead: the file at home is found again if the way
out has come to it under other names. -/
theorem finds_discover (tree : FileTree) (home : Option Path) (directory : Path) :
    tree.Finds home directory (tree.discover home directory) where
  leadsOut := directory.leadsOut_around
  eq_of_root inner root outer hfiles hinner hroot := discover_of_first_root hfiles hinner hroot
  eq_of_no_root hroots hnone := by
    rcases discover_of_unrooted (upToRoot_of_no_root hroots) with ⟨_, hfound⟩ | ⟨path, hleft, _⟩
    · exact hfound
    · exact absurd hleft (hnone path)
  eq_of_left_at_home hroots path hpath := by
    rcases discover_of_unrooted (upToRoot_of_no_root hroots) with
      ⟨hnone, _⟩ | ⟨other, hleft, hfound⟩
    · exact absurd hpath (hnone path)
    · rw [hpath.eq hleft]
      exact hfound
  distinct := pairwise_discover tree home directory
  home_once place _ := countP_isSame_le (pairwise_discover tree home directory) _
  mem_of_closer inner path outer hfiles hinner := by
    apply mem_discover_of_closer home hfiles
    intro closer hcloser hroot
    obtain ⟨file, hload, hmarked⟩ := holdsRoot_iff.1 hroot
    exact hinner closer hcloser file hload hmarked

/-- Home is on the way out, and a malformed file stands between it and a file with no text. -/
example :
    let tree : FileTree :=
      ⟨[(["home"], .directory), (["a", "home"], .directory), (["b", "a", "home"], .directory),
        ([".sift.toml", "home"], .text "root = false\n"),
        ([".sift.toml", "a", "home"], .text "root = true\nroot"),
        ([".sift.toml", "b", "a", "home"], .binary)]⟩
    (tree.discover (some (Path.ofText "/home/")) (Path.ofText "/home/a/b")).map Path.text =
      ["/home/a/b/.sift.toml", "/home/a/.sift.toml", "/home/.sift.toml"] := by
  decide +kernel

end FileTree

end FilterQuery

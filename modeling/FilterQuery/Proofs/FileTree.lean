import FilterQuery.FileTree
import FilterQuery.Proofs.Outcome

/-!
# What paths find in a tree

What a path finds is all that reading it depends on. A file that is put where nothing stood is
found by the paths that lead there and leaves alone what all others find.
-/

namespace FilterQuery

/-- What reading an entry gives. -/
def FileEntry.content : FileEntry → Except ReadFault String
  | .directory => .error .isDirectory
  | .text content => .ok content
  | .binary => .error .notUtf8

/-- The path is neither too long nor broken off by the character that ends paths. -/
def Path.Passable (path : Path) : Prop :=
  '\x00' ∉ path.chars ∧ path.text.utf8ByteSize < FileTree.pathSizeLimit

namespace FileTree

variable {tree other : FileTree} {path respelled : Path} {place free : Location} {entry : FileEntry}
  {names : List String} {name : String}

/-! ## Finding -/

theorem find?_eq_some_iff_resolve :
    tree.find? path = some entry ↔
      ∃ place, tree.resolve path = .ok place ∧ tree.lookup? place = some entry := by
  rw [find?]
  cases tree.resolve path <;> simp

theorem read_of_find? (hfind : tree.find? path = some entry) : tree.read path = entry.content := by
  obtain ⟨place, hresolve, hlookup⟩ := find?_eq_some_iff_resolve.1 hfind
  rw [read, hresolve]
  cases entry <;> simp [bind, Except.bind, hlookup, FileEntry.content]

theorem isFile_eq_true_iff :
    tree.isFile path = true ↔ ∃ entry, tree.find? path = some entry ∧ entry ≠ .directory := by
  rw [isFile]
  rcases tree.find? path with _ | _ | _ | _ <;> simp

theorem isFile_congr (hfind : tree.find? path = other.find? path) :
    tree.isFile path = other.isFile path := by
  rw [isFile, isFile, hfind]

/-- Reading a file gives the same in trees where the same is found. -/
theorem read_congr (hfind : tree.find? path = other.find? path) (hfile : tree.isFile path = true) :
    tree.read path = other.read path := by
  obtain ⟨entry, hentry, _⟩ := isFile_eq_true_iff.1 hfile
  rw [read_of_find? hentry, read_of_find? (hfind ▸ hentry)]

theorem resolve_eq_ok_iff :
    tree.resolve path = .ok place ↔
      path.Passable ∧ tree.follow path.names = .ok place ∧
        (path.trailing = "" ∨ ∀ entry, tree.lookup? place = some entry → entry = .directory) := by
  rw [resolve, Path.Passable, ← Nat.not_le]
  split
  · next hends => simpa using fun h => absurd hends (by simpa using h)
  · next hends =>
    split
    · next hsize => simp [hsize]
    · next hsize =>
      have hpath : '\x00' ∉ path.chars := by simpa using hends
      simp only [hpath, hsize, not_false_eq_true, true_and]
      cases hfollow : tree.follow path.names with
      | error reason => simp [bind, Except.bind]
      | ok reached =>
        simp only [bind, Except.bind, Except.ok.injEq]
        rcases hlookup : tree.lookup? reached with _ | _ | _ | _ <;> grind

/-- Only a directory is found by a path with something after its last name. -/
theorem find?_eq_some_iff :
    tree.find? path = some entry ↔
      path.Passable ∧ (path.trailing = "" ∨ entry = .directory) ∧
        ∃ place, tree.follow path.names = .ok place ∧ tree.lookup? place = some entry := by
  simp only [find?_eq_some_iff_resolve, resolve_eq_ok_iff]
  constructor
  · rintro ⟨place, ⟨hpath, hfollow, hcheck⟩, hlookup⟩
    exact ⟨hpath, hcheck.imp_right (· _ hlookup), place, hfollow, hlookup⟩
  · rintro ⟨hpath, hcheck, place, hfollow, hlookup⟩
    refine ⟨place, ⟨hpath, hfollow, hcheck.imp_right fun h other hother => ?_⟩, hlookup⟩
    rw [← h, ← Option.some.inj (hlookup.symm.trans hother)]

/-- Paths that lead through the same names to a file find the same, however they are written. -/
theorem find?_of_names_eq (hnames : path.names = respelled.names) (hrespelled : respelled.Passable)
    (htrailing : respelled.trailing = "") (hfind : tree.find? path = some entry) :
    tree.find? respelled = some entry := by
  obtain ⟨_, _, hplace⟩ := find?_eq_some_iff.1 hfind
  rw [hnames] at hplace
  exact find?_eq_some_iff.2 ⟨hrespelled, .inl htrailing, hplace⟩

/-- A path that differs from that of a file only in how it is written leads to a file too, unless it
leads to none in any tree. -/
theorem isFile_of_isSame (hsame : path.isSame respelled = true)
    (hfile : tree.isFile path = true) (hother : other.isFile respelled = true)
    (htrailing : respelled.trailing = "") : tree.isFile respelled = true := by
  obtain ⟨entry, hentry, hkind⟩ := isFile_eq_true_iff.1 hfile
  obtain ⟨found, hfound, _⟩ := isFile_eq_true_iff.1 hother
  obtain ⟨hpassable, _⟩ := find?_eq_some_iff.1 hfound
  rw [Path.isSame, Bool.and_eq_true, beq_iff_eq, beq_iff_eq] at hsame
  have hfind := find?_of_names_eq hsame.2 hpassable htrailing hentry
  exact isFile_eq_true_iff.2 ⟨entry, hfind, hkind⟩

/-! ## Putting a file where nothing stands -/

theorem ne_nil_of_lookup?_eq_none (hfree : tree.lookup? free = none) : free ≠ [] := by
  rintro rfl
  rw [lookup?, if_pos rfl] at hfree
  cases hfree

theorem lookup?_put_self (hfree : tree.lookup? free = none) :
    (tree.put free entry).lookup? free = some entry := by
  rw [lookup?_put, if_neg (ne_nil_of_lookup?_eq_none hfree), if_pos rfl]

theorem lookup?_put_of_ne (hne : place ≠ free) :
    (tree.put free entry).lookup? place = tree.lookup? place := by
  rw [lookup?_put, if_neg hne, lookup?]
  split <;> rfl

theorem lookup?_put_eq_directory_iff (hfree : tree.lookup? free = none)
    (hfile : entry ≠ .directory) :
    (tree.put free entry).lookup? place = some .directory ↔
      tree.lookup? place = some .directory := by
  by_cases hplace : place = free
  · subst hplace
    simp [lookup?_put_self hfree, hfree, hfile]
  · rw [lookup?_put_of_ne hplace]

theorem follow_cons_eq_ok_iff :
    tree.follow (name :: names) = .ok place ↔
      ∃ around, tree.follow names = .ok around ∧ tree.lookup? around = some .directory ∧
        step name around = .ok place := by
  rw [follow, bind_eq_ok_iff]
  apply exists_congr
  intro around
  apply and_congr_right
  intro _
  rcases tree.lookup? around with _ | _ | _ | _ <;> simp

/-- No way leads through a file, so that the same places are reached as before. -/
theorem follow_put_eq_ok_iff (hfree : tree.lookup? free = none) (hfile : entry ≠ .directory) :
    (tree.put free entry).follow names = .ok place ↔ tree.follow names = .ok place := by
  induction names generalizing place with
  | nil => rfl
  | cons name names ih =>
    simp only [follow_cons_eq_ok_iff, ih, lookup?_put_eq_directory_iff hfree hfile]

/-- A file that is put where nothing stood is all that a path can find besides what it found. -/
theorem find?_put (hfree : tree.lookup? free = none) (hfile : entry ≠ .directory) (path : Path) :
    (tree.put free entry).find? path = tree.find? path ∨
      tree.find? path = none ∧ (tree.put free entry).find? path = some entry := by
  -- The way is the same in both trees, so that only what stands at its end can differ.
  have hfinds : ∀ found, (tree.put free entry).find? path = some found ↔
      path.Passable ∧ (path.trailing = "" ∨ found = .directory) ∧
        ∃ place, tree.follow path.names = .ok place ∧
          (tree.put free entry).lookup? place = some found := by
    simp only [find?_eq_some_iff, follow_put_eq_ok_iff hfree hfile, implies_true]
  cases hbefore : tree.find? path with
  | some found =>
    obtain ⟨hpath, htrailing, place, hfollow, hlookup⟩ := find?_eq_some_iff.1 hbefore
    have hne : place ≠ free := by
      rintro rfl
      rw [hfree] at hlookup
      cases hlookup
    rw [← lookup?_put_of_ne hne] at hlookup
    exact .inl ((hfinds found).2 ⟨hpath, htrailing, place, hfollow, hlookup⟩)
  | none =>
    cases hafter : (tree.put free entry).find? path with
    | none => exact .inl rfl
    | some found =>
      obtain ⟨hpath, htrailing, place, hfollow, hlookup⟩ := (hfinds found).1 hafter
      by_cases hplace : place = free
      · rw [hplace, lookup?_put_self hfree] at hlookup
        exact .inr ⟨rfl, hlookup.symm⟩
      · rw [lookup?_put_of_ne hplace] at hlookup
        have hfound := find?_eq_some_iff.2 ⟨hpath, htrailing, place, hfollow, hlookup⟩
        rw [hbefore] at hfound
        cases hfound

/-- A path that leads where a file is put finds that file. -/
theorem find?_put_self (hresolve : tree.resolve path = .ok free)
    (hfree : tree.lookup? free = none) (hfile : entry ≠ .directory) (htrailing : path.trailing = "") :
    (tree.put free entry).find? path = some entry := by
  obtain ⟨hpath, hfollow, _⟩ := resolve_eq_ok_iff.1 hresolve
  apply find?_eq_some_iff.2
  exact ⟨hpath, .inl htrailing, free, (follow_put_eq_ok_iff hfree hfile).2 hfollow,
    lookup?_put_self hfree⟩

/-- Writing where a path finds nothing puts a file there, which the path finds then. -/
theorem write_eq_ok_of_find?_eq_none {content : String} {written : FileTree}
    (hnone : tree.find? path = none) (hwrite : tree.write path content = .ok written) :
    ∃ free, tree.lookup? free = none ∧ written = tree.put free (.text content) ∧
      written.find? path = some (.text content) := by
  obtain ⟨free, hresolve, hput⟩ := bind_eq_ok_iff.1 hwrite
  have hfree : tree.lookup? free = none := by
    rw [find?, hresolve] at hnone
    exact hnone
  simp only [hfree] at hput
  split at hput
  · next htrailing =>
    have hwritten := (Except.ok.inj hput).symm
    refine ⟨free, hfree, hwritten, ?_⟩
    rw [hwritten]
    exact find?_put_self hresolve hfree (by simp) htrailing
  · cases hput

end FileTree

end FilterQuery

/-!
# Maps from names in ascending order

A finite map whose entries are kept in strictly ascending order of their names, by code point. The
order is what listings and messages show, so it is part of the type.
-/

namespace FilterQuery

/-- Entries in strictly ascending order of name. -/
structure NameMap (α : Type) where
  entries : List (String × α)
  ascending : entries.Pairwise fun left right => left.1 < right.1
  deriving DecidableEq

namespace NameMap

variable {α : Type}

def empty : NameMap α :=
  ⟨[], .nil⟩

instance : Inhabited (NameMap α) :=
  ⟨empty⟩

/-- Put an entry at its place in an ascending list, over an entry of the same name. -/
def putEntry (name : String) (value : α) : List (String × α) → List (String × α)
  | [] => [(name, value)]
  | entry :: rest =>
    if name < entry.1 then (name, value) :: entry :: rest
    else if name = entry.1 then (name, value) :: rest
    else entry :: putEntry name value rest

theorem mem_of_mem_putEntry {name : String} {value : α} {entries : List (String × α)}
    {entry : String × α} (hmem : entry ∈ putEntry name value entries) :
    entry = (name, value) ∨ entry ∈ entries := by
  induction entries with
  | nil => simpa [putEntry] using hmem
  | cons first rest ih =>
    unfold putEntry at hmem
    split at hmem
    · simpa using hmem
    · split at hmem
      · rcases List.mem_cons.1 hmem with heq | hrest
        · exact .inl heq
        · exact .inr (List.mem_cons_of_mem _ hrest)
      · rcases List.mem_cons.1 hmem with heq | hrest
        · exact .inr (heq ▸ List.mem_cons_self)
        · rcases ih hrest with heq | hold
          · exact .inl heq
          · exact .inr (List.mem_cons_of_mem _ hold)

theorem pairwise_putEntry (name : String) (value : α) {entries : List (String × α)}
    (hascending : entries.Pairwise fun left right => left.1 < right.1) :
    (putEntry name value entries).Pairwise fun left right => left.1 < right.1 := by
  induction entries with
  | nil => simp [putEntry]
  | cons first rest ih =>
    obtain ⟨hfirst, hrest⟩ := List.pairwise_cons.1 hascending
    unfold putEntry
    split
    · rename_i hless
      refine List.pairwise_cons.2 ⟨fun entry hentry => ?_, hascending⟩
      rcases List.mem_cons.1 hentry with heq | hold
      · exact heq ▸ hless
      · exact String.lt_trans hless (hfirst entry hold)
    · split
      · rename_i hequal
        exact List.pairwise_cons.2 ⟨fun entry hentry => hequal ▸ hfirst entry hentry, hrest⟩
      · rename_i hnotLess hnotEqual
        refine List.pairwise_cons.2 ⟨fun entry hentry => ?_, ih hrest⟩
        rcases mem_of_mem_putEntry hentry with heq | hold
        · subst heq
          exact Std.lt_of_le_of_ne (String.not_lt.1 hnotLess) (Ne.symm hnotEqual)
        · exact hfirst entry hold

/-- The map with `value` under `name`, whatever was there before. -/
def insert (map : NameMap α) (name : String) (value : α) : NameMap α :=
  ⟨putEntry name value map.entries, pairwise_putEntry name value map.ascending⟩

/-- The map without an entry for `name`. -/
def erase (map : NameMap α) (name : String) : NameMap α :=
  ⟨map.entries.filter (·.1 ≠ name), map.ascending.filter _⟩

/-- The value of the first entry for `name`. -/
def valueIn (name : String) : List (String × α) → Option α
  | [] => none
  | entry :: rest => if name = entry.1 then some entry.2 else valueIn name rest

def get? (map : NameMap α) (name : String) : Option α :=
  valueIn name map.entries

def contains (map : NameMap α) (name : String) : Bool :=
  (map.get? name).isSome

/-- The names in ascending order. -/
def names (map : NameMap α) : List String :=
  map.entries.map (·.1)

def size (map : NameMap α) : Nat :=
  map.entries.length

def isEmpty (map : NameMap α) : Bool :=
  map.entries.isEmpty

/-- The map of a list of entries. A later entry replaces an earlier one of the same name. -/
def ofList (entries : List (String × α)) : NameMap α :=
  entries.foldl (fun map entry => map.insert entry.1 entry.2) empty

theorem ascending_names (map : NameMap α) : map.names.Pairwise (· < ·) :=
  List.pairwise_map.2 map.ascending

theorem nodup_names (map : NameMap α) : map.names.Nodup := by
  refine List.Pairwise.imp ?_ map.ascending_names
  intro left right hless heq
  subst heq
  exact String.lt_irrefl left hless

theorem length_names (map : NameMap α) : map.names.length = map.size := by
  simp [names, size]

theorem valueIn_putEntry (name other : String) (value : α) (entries : List (String × α)) :
    valueIn other (putEntry name value entries) =
      if other = name then some value else valueIn other entries := by
  induction entries with
  | nil => simp [putEntry, valueIn]
  | cons first rest ih => grind [putEntry, valueIn]

/-- Inserting changes the value under its own name only. -/
@[simp]
theorem get?_insert (map : NameMap α) (name other : String) (value : α) :
    (map.insert name value).get? other = if other = name then some value else map.get? other :=
  valueIn_putEntry name other value map.entries

theorem valueIn_filter_ne (name other : String) (entries : List (String × α)) :
    valueIn other (entries.filter (·.1 ≠ name)) =
      if other = name then none else valueIn other entries := by
  induction entries with
  | nil => simp [valueIn]
  | cons first rest ih => grind [valueIn]

/-- Erasing removes the value under its own name only. -/
@[simp]
theorem get?_erase (map : NameMap α) (name other : String) :
    (map.erase name).get? other = if other = name then none else map.get? other :=
  valueIn_filter_ne name other map.entries

@[simp]
theorem get?_empty (name : String) : (empty : NameMap α).get? name = none :=
  rfl

theorem mem_of_valueIn {name : String} {value : α} {entries : List (String × α)}
    (hvalue : valueIn name entries = some value) : (name, value) ∈ entries := by
  induction entries with
  | nil => cases hvalue
  | cons entry rest ih =>
    rw [valueIn] at hvalue
    split at hvalue
    · next hname =>
      cases hvalue
      subst hname
      exact List.mem_cons_self
    · exact List.mem_cons_of_mem _ (ih hvalue)

theorem valueIn_of_mem {name : String} {value : α} {entries : List (String × α)}
    (hascending : entries.Pairwise fun left right => left.1 < right.1)
    (hmem : (name, value) ∈ entries) : valueIn name entries = some value := by
  induction entries with
  | nil => cases hmem
  | cons entry rest ih =>
    obtain ⟨hfirst, hrest⟩ := List.pairwise_cons.1 hascending
    rcases List.mem_cons.1 hmem with rfl | hold
    · exact if_pos rfl
    · have hne : name ≠ entry.1 := fun heq =>
        String.lt_irrefl name (heq ▸ hfirst (name, value) hold)
      rw [valueIn, if_neg hne]
      exact ih hrest hold

/-- The value under a name is that of the only entry for it. -/
theorem get?_eq_some_iff {map : NameMap α} {name : String} {value : α} :
    map.get? name = some value ↔ (name, value) ∈ map.entries :=
  ⟨mem_of_valueIn, valueIn_of_mem map.ascending⟩

theorem eq_of_entries {left right : NameMap α} (hentries : left.entries = right.entries) :
    left = right := by
  cases left
  cases right
  cases hentries
  rfl

/-- Maps with the same value under every name are the same. -/
@[ext]
theorem ext {left right : NameMap α} (hvalues : ∀ name, left.get? name = right.get? name) :
    left = right := by
  have hnodup (map : NameMap α) : map.entries.Nodup := by
    refine map.ascending.imp ?_
    intro first second hless heq
    exact String.lt_irrefl first.1 (heq ▸ hless)
  have hmem (entry : String × α) : entry ∈ left.entries ↔ entry ∈ right.entries := by
    rw [← get?_eq_some_iff, ← get?_eq_some_iff, hvalues]
  have hperm := (List.perm_ext_iff_of_nodup (hnodup left) (hnodup right)).2 hmem
  apply eq_of_entries
  apply hperm.eq_of_pairwise _ left.ascending right.ascending
  intro first second _ _ hless hgreater
  exact absurd (String.lt_trans hless hgreater) (String.lt_irrefl first.1)

/-- A name is listed exactly when it has a value. -/
theorem mem_names_iff (map : NameMap α) (name : String) :
    name ∈ map.names ↔ map.contains name = true := by
  simp only [names, contains, get?]
  induction map.entries with
  | nil => simp [valueIn]
  | cons first rest ih => grind [valueIn]

theorem mem_names_iff_exists_get? {map : NameMap α} {name : String} :
    name ∈ map.names ↔ ∃ value, map.get? name = some value := by
  rw [mem_names_iff, contains, Option.isSome_iff_exists]

/-- The map with every value changed. -/
def map {β : Type} (change : α → β) (map : NameMap α) : NameMap β :=
  ⟨map.entries.map fun entry => (entry.1, change entry.2), List.pairwise_map.2 map.ascending⟩

@[simp]
theorem get?_map {β : Type} (change : α → β) (map : NameMap α) (name : String) :
    (map.map change).get? name = (map.get? name).map change := by
  simp only [NameMap.map, get?]
  induction map.entries with
  | nil => rfl
  | cons first rest ih => grind [valueIn]

theorem putEntry_concat {name : String} {entries : List (String × α)}
    (hlast : ∀ entry ∈ entries, entry.1 < name) (value : α) :
    putEntry name value entries = entries ++ [(name, value)] := by
  induction entries with
  | nil => rfl
  | cons first rest ih =>
    obtain ⟨hfirst, hrest⟩ := List.forall_mem_cons.1 hlast
    have hne : name ≠ first.1 := by
      intro heq
      exact String.lt_irrefl name (heq ▸ hfirst)
    rw [putEntry, if_neg (String.not_lt.2 (Std.le_of_lt hfirst)), if_neg hne, ih hrest, List.cons_append]

theorem entries_foldl_insert {entries : List (String × α)} {map : NameMap α}
    (hascending : (map.entries ++ entries).Pairwise fun left right => left.1 < right.1) :
    (entries.foldl (fun map entry => map.insert entry.1 entry.2) map).entries =
      map.entries ++ entries := by
  induction entries generalizing map with
  | nil => exact (List.append_nil _).symm
  | cons first rest ih =>
    have hlast : ∀ entry ∈ map.entries, entry.1 < first.1 := by
      intro entry hentry
      exact (List.pairwise_append.1 hascending).2.2 entry hentry first List.mem_cons_self
    have hinsert : (map.insert first.1 first.2).entries = map.entries ++ [first] :=
      putEntry_concat hlast first.2
    have hsplit : map.entries ++ first :: rest = (map.entries ++ [first]) ++ rest :=
      List.append_cons _ _ _
    rw [hsplit, ← hinsert] at hascending ⊢
    exact ih hascending

/-- A map is read back from its entries. -/
theorem ofList_entries (map : NameMap α) : ofList map.entries = map := by
  have hascending : ((empty : NameMap α).entries ++ map.entries).Pairwise
      fun left right => left.1 < right.1 := map.ascending
  apply eq_of_entries
  exact entries_foldl_insert hascending

end NameMap

end FilterQuery

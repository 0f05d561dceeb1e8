import FilterQuery.Toml.Value

/-!
# Building TOML tables

Tables grow by key paths. A pair is put at a path of dotted keys; a header opens the table at its
path. Neither may touch what is already complete: a value is written once, a header opens a table
once, a table between braces stays as it is, and dotted keys do not reach into tables with headers.
-/

namespace FilterQuery.Toml.Entries

def get? (name : String) : Entries → Option Value
  | [] => none
  | entry :: rest => if name = entry.1 then some entry.2 else get? name rest

/-- The entries with another value under a name that has one. -/
def replace (name : String) (value : Value) : Entries → Entries
  | [] => []
  | entry :: rest =>
    if name = entry.1 then (name, value) :: rest else entry :: replace name value rest

/-- The entries with a pair put at a path of dotted keys. -/
def putPair (path : List String) (value : Value) (entries : Entries) : Option Entries :=
  match path with
  | [] => none
  | [name] =>
    match entries.get? name with
    | none => some (entries ++ [(name, value)])
    | some _ => none
  | name :: next :: rest =>
    match entries.get? name with
    | none => do
      let inner ← putPair (next :: rest) value []
      return entries ++ [(name, .table .dotted inner)]
    | some (.table .dotted inner) => do
      return entries.replace name (.table .dotted (← putPair (next :: rest) value inner))
    | some (.table .implicit inner) =>
      if rest.isEmpty then none
      else do return entries.replace name (.table .implicit (← putPair (next :: rest) value inner))
    | some _ => none

/-- The entries with the table at a header's path opened. -/
def openTable (path : List String) (entries : Entries) : Option Entries :=
  match path with
  | [] => none
  | [name] =>
    match entries.get? name with
    | none => some (entries ++ [(name, .table .header [])])
    | some (.table .implicit inner) => some (entries.replace name (.table .header inner))
    | some _ => none
  | name :: next :: rest =>
    match entries.get? name with
    | none => do
      let inner ← openTable (next :: rest) []
      return entries ++ [(name, .table .implicit inner)]
    | some (.table .inline _) => none
    | some (.table origin inner) => do
      return entries.replace name (.table origin (← openTable (next :: rest) inner))
    | some _ => none

/-- The entries with the table at an opened path updated. -/
def updateAt (update : Entries → Option Entries) (path : List String) (entries : Entries) :
    Option Entries :=
  match path with
  | [] => update entries
  | name :: rest =>
    match entries.get? name with
    | some (.table origin inner) => do
      return entries.replace name (.table origin (← updateAt update rest inner))
    | _ => none

end FilterQuery.Toml.Entries

import FilterQuery.Config.Keys

/-!
# Changes of key tables

A key table is set up from nothing, with the built-in keys or for a configuration. Later changes
insert and remove single keys or set the table up anew; a faulty configuration leaves it as it is.
Every change answers what came of it.
-/

namespace FilterQuery.KeyTable

/-- What a table is set up from. -/
inductive Origin where
  | empty
  | builtin
  | configured (config : Config)

/-- The table that is set up. -/
def Origin.table : Origin → Except ConfigFault KeyTable
  | .empty => .ok .empty
  | .builtin => .ok .builtin
  | .configured config => ofConfig config

inductive Change where
  | setUp (origin : Origin)
  | insert (name : String) (rule : Rule)
  | remove (name : String)

/-- What comes of a change. -/
inductive Answer where
  | replaced
  | refused (fault : ConfigFault)
  /-- Whether there was a rule of the name that is inserted or removed. -/
  | found (present : Bool)
  deriving DecidableEq, Repr

/-- The table after a change, and what comes of the change. -/
def change (table : KeyTable) : Change → KeyTable × Answer
  | .setUp origin =>
    match origin.table with
    | .ok replaced => (replaced, .replaced)
    | .error fault => (table, .refused fault)
  | .insert name rule =>
    let (changed, present) := table.insertRule name rule
    (changed, .found present)
  | .remove name =>
    let (changed, present) := table.removeRule name
    (changed, .found present)

/-- The table after some changes. -/
def changes (table : KeyTable) (history : List Change) : KeyTable :=
  history.foldl (fun table change => (table.change change).1) table

end FilterQuery.KeyTable

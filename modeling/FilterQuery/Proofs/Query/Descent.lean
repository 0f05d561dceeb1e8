import FilterQuery.Proofs.Query.Joining

/-!
# Reading by descent

The grammar read by three kinds of calls that call each other, one for each kind of node, with a
cursor into the tokens and a counter of the groups that are open. Calls are nested, and a further
round of a loop counts as a call inside the round before it; a descent is given room for so many.
Where the room runs out there is no outcome, so a descent that went on for ever would have none
with any room. What a descent does on its way is kept as a list of events.
-/

namespace FilterQuery

/-- Tokens to be read, the nesting limit in force, and where the query ends. -/
structure Descent where
  tokens : List Token
  limit : Nat
  stop : Nat
  deriving DecidableEq, Repr

namespace Descent

/-- The number of tokens consumed and the counter of open groups. -/
structure Cursor where
  position : Nat := 0
  depth : Nat := 0
  deriving DecidableEq, Repr

/-- What a call reads. -/
inductive Node where
  | disjunction
  | conjunction
  | term
  deriving DecidableEq, Repr

inductive Event where
  /-- A call begins, in the bodies of so many groups. -/
  | call (node : Node) (nested : Nat) (start : Cursor)
  /-- A call that began at `start` has read its node. -/
  | success (node : Node) (start stop : Cursor)
  /-- The cursor changes. -/
  | move (before after : Cursor)
  /-- The log gets a note. -/
  | note (text : String)
  deriving DecidableEq, Repr

def Event.note? : Event → Option String
  | .note text => some text
  | _ => none

/-- Where a descent stands and what has happened so far, the oldest event first. -/
structure Progress where
  cursor : Cursor := {}
  events : List Event := []
  deriving DecidableEq, Repr

namespace Progress

def notes (progress : Progress) : List String :=
  progress.events.filterMap Event.note?

def record (progress : Progress) (event : Event) : Progress :=
  { progress with events := progress.events ++ [event] }

def moveTo (progress : Progress) (cursor : Cursor) : Progress :=
  ⟨cursor, progress.events ++ [.move progress.cursor cursor]⟩

/-- One more token is consumed. -/
def advance (progress : Progress) : Progress :=
  progress.moveTo { progress.cursor with position := progress.cursor.position + 1 }

/-- One more group is open. -/
def raise (progress : Progress) : Progress :=
  progress.moveTo { progress.cursor with depth := progress.cursor.depth + 1 }

/-- One group less is open. -/
def lower (progress : Progress) : Progress :=
  progress.moveTo { progress.cursor with depth := progress.cursor.depth - 1 }

end Progress

/-- A part of a descent. It may have no outcome; a fault leaves the progress made. -/
abbrev Act :=
  ExceptT Fault (StateT Progress Option)

def noRoom {α : Type} : Act α :=
  liftM (none : Option α)

/-- A sequence comes to an end if its first part does and then the rest, which a fault leaves out. -/
theorem run_bind_eq_some_iff {α β : Type} {act : Act α} {rest : α → Act β} {progress : Progress}
    {ending : Except Fault β × Progress} :
    (act >>= rest).run.run progress = some ending ↔
      ∃ result next, act.run.run progress = some (result, next) ∧
        (ExceptT.bindCont rest result).run next = some ending := by
  have hbind : (act >>= rest).run.run progress = (act.run.run progress).bind fun reached =>
      (ExceptT.bindCont rest reached.1).run reached.2 := rfl
  rw [hbind, Option.bind_eq_some_iff, Prod.exists]

def record (event : Event) : Act Unit :=
  modify (·.record event)

/-- Begins a call and gives back where. -/
def enter (node : Node) (nested : Nat) : Act Cursor := do
  let start := (← get).cursor
  record (.call node nested start)
  return start

/-- Ends a call that began at `start`. -/
def leave (node : Node) (start : Cursor) : Act Unit := do
  record (.success node start (← get).cursor)

variable (descent : Descent)

def consumed (cursor : Cursor) : List Token :=
  descent.tokens.take cursor.position

/-- The token at the cursor, unless all are consumed. -/
def current? (cursor : Cursor) : Option Token :=
  descent.tokens[cursor.position]?

def peek : Act (Option Token) := do
  return descent.current? (← get).cursor

def nextIs (kind : TokenKind) : Act Bool := do
  return (← descent.peek).any (·.kind = kind)

/-- Consumes the current token, if there is one. -/
def advance : Act Unit := do
  if (← get).cursor.position < descent.tokens.length then
    modify (·.advance)

/-- Consumes the current token and gives its text. -/
def takeText : Act String := do
  let token ← descent.peek
  descent.advance
  return (token.map Token.text).getD ""

/-- The place of the current token, or the end of the query. -/
def currentOffset : Act Nat := do
  return ((← descent.peek).map Token.offset).getD descent.stop

/-- Refuses the current token or the end. -/
def unexpected {α : Type} (expected : String) : Act α := do
  let found := ((← descent.peek).map Token.describe).getD "end of input"
  throw (.unexpectedToken (← descent.currentOffset) expected found)

/-- Notes a connective and consumes it. -/
def passConnective (name : String) : Act Unit := do
  record (.note (name ++ " at token " ++ toString (← get).cursor.position))
  descent.advance

/-- A key, a colon and a value. -/
def leaf : Act Term := do
  let key ← descent.takeText
  unless ← descent.nextIs (.punctuation .colon) do
    descent.unexpected ("`:` after key `" ++ key ++ "`")
  descent.advance
  match (← descent.peek).map Token.kind with
  | some .key | some .value =>
    let value ← descent.takeText
    record (.note ("leaf " ++ key ++ ":" ++ value))
    return .leaf key value
  | _ => descent.unexpected ("value after `" ++ key ++ ":`")

mutual

/-- A conjunction, and another one behind every `OR`. -/
def disjunction : Nat → Nat → Act Disjunction
  | 0, _ => noRoom
  | room + 1, nested => do
    let start ← enter .disjunction nested
    let first ← conjunction room nested
    let tree ← moreConjunctions room nested (.one first)
    leave .disjunction start
    return tree
termination_by structural room => room

/-- The loop of `disjunction`, with the tree read so far. -/
def moreConjunctions : Nat → Nat → Disjunction → Act Disjunction
  | 0, _, _ => noRoom
  | room + 1, nested, tree => do
    if ← descent.nextIs (.connective .or) then
      descent.passConnective "OR"
      let operand ← conjunction room nested
      moreConjunctions room nested (tree.join .or (.one operand))
    else
      return tree
termination_by structural room => room

/-- A term, and another one behind every `AND`. -/
def conjunction : Nat → Nat → Act Conjunction
  | 0, _ => noRoom
  | room + 1, nested => do
    let start ← enter .conjunction nested
    let first ← term room nested
    let operand ← moreTerms room nested (.one first)
    leave .conjunction start
    return operand
termination_by structural room => room

/-- The loop of `conjunction`, with the operand read so far. -/
def moreTerms : Nat → Nat → Conjunction → Act Conjunction
  | 0, _, _ => noRoom
  | room + 1, nested, operand => do
    if ← descent.nextIs (.connective .and) then
      descent.passConnective "AND"
      let next ← term room nested
      moreTerms room nested (operand.append (.one next))
    else
      return operand
termination_by structural room => room

/-- A leaf or a group. -/
def term : Nat → Nat → Act Term
  | 0, _ => noRoom
  | room + 1, nested => do
    let start ← enter .term nested
    let found ← do
      match (← descent.peek).map Token.kind with
      | some (.punctuation .openParen) => group room nested
      | some .key => descent.leaf
      | _ => descent.unexpected "key or `(`"
    leave .term start
    return found
termination_by structural room => room

/-- A disjunction in parentheses. The counter is raised before it is compared with the limit, and
lowered only once the group is closed. -/
def group : Nat → Nat → Act Term
  | 0, _ => noRoom
  | room + 1, nested => do
    let opening ← descent.currentOffset
    descent.advance
    modify (·.raise)
    let depth := (← get).cursor.depth
    if descent.limit < depth then
      throw (.tooDeep opening descent.limit)
    record (.note ("enter group at offset " ++ toString opening ++ " (depth " ++ toString depth ++
      ")"))
    let inner ← disjunction room (nested + 1)
    unless ← descent.nextIs (.punctuation .closeParen) do
      descent.unexpected ("`AND`, `OR` or `)` closing the group at offset " ++ toString opening)
    descent.advance
    modify (·.lower)
    return .group inner
termination_by structural room => room

end

/-- A disjunction that consumes every token. -/
def query (room : Nat) : Act Disjunction := do
  let tree ← descent.disjunction room 0
  if (← descent.peek).isSome then
    descent.unexpected "`AND`, `OR` or end of input"
  return tree

/-- The outcome of a whole descent and the progress it has made, if there is room for it. -/
def run? (room : Nat) : Option (Except Fault Disjunction × Progress) :=
  (descent.query room).run.run {}

end Descent

end FilterQuery

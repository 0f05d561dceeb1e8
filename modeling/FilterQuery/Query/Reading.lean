import FilterQuery.Query.Token.Scan
import FilterQuery.Query.Tree

/-!
# Reading a query tree

A query is read token by token. A reading holds the operands collected so far at every nesting
level, the groups that are still open, and what may come next; each token either extends the reading
or is the place of a fault. The number of open groups never exceeds the nesting limit.
-/

namespace FilterQuery

/-- Nesting limit of queries that set none. -/
def defaultMaxDepth : Nat := 64

/-- The largest nesting limit; a larger one is taken as this. -/
def maxDepthCeiling : Nat := 128

/-- The nesting limit in force when `maxDepth` is asked for. -/
def nestingLimit (maxDepth : Nat) : Nat :=
  min maxDepth maxDepthCeiling

/-- The complete operands at one nesting level, the newest first: the conjunctions, and the terms of
the conjunction being read. -/
structure Level where
  conjunctions : List Conjunction := []
  terms : List Term := []
  deriving DecidableEq, Repr

namespace Level

/-- The conjunction that ends with `last`. -/
def conjunction (level : Level) (last : Term) : Conjunction :=
  level.terms.foldl (fun rest term => .and term rest) (.one last)

/-- The disjunction that ends with `last`. -/
def disjunction (level : Level) (last : Term) : Disjunction :=
  level.conjunctions.foldl (fun rest operand => .or operand rest) (.one (level.conjunction last))

/-- After `AND`: another term of the same conjunction follows `last`. -/
def andThen (level : Level) (last : Term) : Level :=
  { level with terms := last :: level.terms }

/-- After `OR`: another conjunction follows the one that ends with `last`. -/
def orThen (level : Level) (last : Term) : Level :=
  ⟨level.conjunction last :: level.conjunctions, []⟩

end Level

/-- An open group: where its parenthesis stands and the level it interrupts. -/
structure OpenGroup where
  offset : Nat
  outer : Level
  deriving DecidableEq, Repr

/-- What may come next. -/
inductive Awaited where
  /-- A leaf or a group. -/
  | term
  /-- The colon after a key. -/
  | colon (key : String)
  /-- The value after a key and its colon. -/
  | value (key : String)
  /-- What can follow a complete term. -/
  | continuation (last : Term)
  deriving DecidableEq, Repr

/-- A query that has been read in part. The innermost open group comes first. -/
structure Reading where
  groups : List OpenGroup := []
  level : Level := {}
  awaited : Awaited := .term
  deriving DecidableEq, Repr

namespace Reading

def depth (reading : Reading) : Nat :=
  reading.groups.length

/-- How messages name what may come next. -/
def expectation (reading : Reading) : String :=
  match reading.awaited with
  | .term => "key or `(`"
  | .colon key => "`:` after key `" ++ key ++ "`"
  | .value key => "value after `" ++ key ++ ":`"
  | .continuation _ =>
    match reading.groups with
    | [] => "`AND`, `OR` or end of input"
    | group :: _ => "`AND`, `OR` or `)` closing the group at offset " ++ toString group.offset

/-- The fault of a token that may not come next. -/
def refuse (reading : Reading) (token : Token) : Except Fault Reading :=
  .error (.unexpectedToken token.offset reading.expectation token.describe)

def step (limit : Nat) (reading : Reading) (token : Token) : Except Fault Reading :=
  match reading.awaited with
  | .term =>
    match token.kind with
    | .key => .ok { reading with awaited := .colon token.text }
    | .punctuation .openParen =>
      if reading.depth < limit then
        .ok ⟨⟨token.offset, reading.level⟩ :: reading.groups, {}, .term⟩
      else .error (.tooDeep token.offset limit)
    | _ => reading.refuse token
  | .colon key =>
    match token.kind with
    | .punctuation .colon => .ok { reading with awaited := .value key }
    | _ => reading.refuse token
  | .value key =>
    match token.kind with
    | .key | .value => .ok { reading with awaited := .continuation (.leaf key token.text) }
    | _ => reading.refuse token
  | .continuation last =>
    match token.kind with
    | .connective .and =>
      .ok { reading with level := reading.level.andThen last, awaited := .term }
    | .connective .or =>
      .ok { reading with level := reading.level.orThen last, awaited := .term }
    | .punctuation .closeParen =>
      match reading.groups with
      | [] => reading.refuse token
      | group :: groups =>
        .ok ⟨groups, group.outer, .continuation (.group (reading.level.disjunction last))⟩
    | _ => reading.refuse token

/-- The reading extended by some tokens, or the fault of the first that may not come next. -/
def run (limit : Nat) (reading : Reading) (tokens : List Token) : Except Fault Reading :=
  tokens.foldlM (step limit) reading

/-- The tree, if the query may end here. `stop` is where it ends. -/
def finish (reading : Reading) (stop : Nat) : Except Fault Disjunction :=
  match reading.awaited, reading.groups with
  | .continuation last, [] => .ok (reading.level.disjunction last)
  | _, _ => .error (.unexpectedToken stop reading.expectation "end of input")

end Reading

namespace Disjunction

/-- The tree of some tokens; `stop` is where the query ends. -/
def ofTokensEndingAt (maxDepth stop : Nat) (tokens : List Token) : Except Fault Disjunction := do
  let reading ← Reading.run (nestingLimit maxDepth) {} tokens
  reading.finish stop

/-- The tree of some tokens that stand alone: the query ends where the last token does. -/
def ofTokens (maxDepth : Nat) (tokens : List Token) : Except Fault Disjunction :=
  ofTokensEndingAt maxDepth (Token.stopOf tokens) tokens

def ofQuery (maxDepth : Nat) (query : String) : Except Fault Disjunction := do
  let tokens ← Token.scan query
  ofTokensEndingAt maxDepth query.utf8ByteSize tokens

end Disjunction

end FilterQuery

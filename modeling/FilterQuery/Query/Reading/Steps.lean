import FilterQuery.Query.Reading

/-!
# The steps of a reading

What a reading passes on its way, in the order of the tokens: connectives, groups and leaves.
-/

namespace FilterQuery.Reading

/-- What one token completes. `position` counts the tokens before it. -/
def note? (reading : Reading) (position : Nat) (token : Token) : Option String :=
  match reading.awaited, token.kind with
  | .term, .punctuation .openParen =>
    some ("enter group at offset " ++ toString token.offset ++ " (depth " ++
      toString (reading.depth + 1) ++ ")")
  | .value key, _ => some ("leaf " ++ key ++ ":" ++ token.text)
  | .continuation _, .connective .and => some ("AND at token " ++ toString position)
  | .continuation _, .connective .or => some ("OR at token " ++ toString position)
  | _, _ => none

/-- The notes of the tokens that extend a reading, up to the first that does not. -/
def notesFrom (limit position : Nat) (reading : Reading) : List Token → List String
  | [] => []
  | token :: rest =>
    match reading.step limit token with
    | .error _ => []
    | .ok next =>
      (reading.note? position token).toList ++ notesFrom limit (position + 1) next rest

/-- The notes of a whole token list. -/
def notes (maxDepth : Nat) (tokens : List Token) : List String :=
  notesFrom (nestingLimit maxDepth) 0 {} tokens

end FilterQuery.Reading

import FilterQuery.Query.Fault
import FilterQuery.Query.Token
import FilterQuery.Text.Blank

/-!
# From text to tokens

Blank characters separate tokens and belong to none. Words are as long as they can be, and are told
apart only once they are complete.
-/

namespace FilterQuery.Token

/-- The tokens of the characters that follow the first `offset` bytes, or the first character that
belongs to no token. -/
def scanFrom (offset : Nat) : List Char → Except Fault (List Token)
  | [] => .ok []
  | c :: rest =>
    if Text.isBlank c then scanFrom (offset + c.utf8Size) rest
    else
      match Punctuation.ofChar? c with
      | some mark =>
        (⟨.punctuation mark, c.toString, offset⟩ :: ·) <$> scanFrom (offset + c.utf8Size) rest
      | none =>
        if isWordChar c then
          let word := String.ofList (c :: rest.takeWhile isWordChar)
          (⟨.ofWord word, word, offset⟩ :: ·) <$>
            scanFrom (offset + word.utf8ByteSize) (rest.dropWhile isWordChar)
        else .error (.unexpectedChar offset c)
termination_by chars => chars.length
decreasing_by
  all_goals
    have := (List.dropWhile_suffix isWordChar (l := rest)).length_le
    simp only [List.length_cons]
    omega

def scan (query : String) : Except Fault (List Token) :=
  scanFrom 0 query.toList

end FilterQuery.Token

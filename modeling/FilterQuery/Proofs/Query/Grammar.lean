import FilterQuery.Query.Reading
import Mathlib.Data.Set.Subsingleton

/-!
# The grammar of queries

A disjunction is one conjunction or several joined by `OR`, a conjunction is one term or several
joined by `AND`, and a term is `key:value` or a disjunction in parentheses. The relations below say
which tree a list of tokens stands for without any mention of how it is found.
-/

namespace FilterQuery

mutual

/-- The tokens of a term: a key, a colon and a word, or a disjunction between parentheses. A key may
stand where a value is due. -/
inductive Term.DerivedFrom : Term → List Token → Prop
  | leaf {key colon value : Token} (hkey : key.kind = .key)
      (hcolon : colon.kind = .punctuation .colon)
      (hvalue : value.kind = .key ∨ value.kind = .value) :
      Term.DerivedFrom (.leaf key.text value.text) [key, colon, value]
  | group {opening closing : Token} {inner : Disjunction} {tokens : List Token}
      (hopening : opening.kind = .punctuation .openParen) (hinner : inner.DerivedFrom tokens)
      (hclosing : closing.kind = .punctuation .closeParen) :
      Term.DerivedFrom (.group inner) (opening :: tokens ++ [closing])

/-- The tokens of a conjunction: its terms with `AND` between any two neighbours. -/
inductive Conjunction.DerivedFrom : Conjunction → List Token → Prop
  | one {term : Term} {tokens : List Token} (hterm : term.DerivedFrom tokens) :
      Conjunction.DerivedFrom (.one term) tokens
  | and {term : Term} {connective : Token} {rest : Conjunction} {tokens further : List Token}
      (hterm : term.DerivedFrom tokens) (hconnective : connective.kind = .connective .and)
      (hrest : rest.DerivedFrom further) :
      Conjunction.DerivedFrom (.and term rest) (tokens ++ connective :: further)

/-- The tokens of a disjunction: its conjunctions with `OR` between any two neighbours. -/
inductive Disjunction.DerivedFrom : Disjunction → List Token → Prop
  | one {operand : Conjunction} {tokens : List Token} (hoperand : operand.DerivedFrom tokens) :
      Disjunction.DerivedFrom (.one operand) tokens
  | or {operand : Conjunction} {connective : Token} {rest : Disjunction}
      {tokens further : List Token} (hoperand : operand.DerivedFrom tokens)
      (hconnective : connective.kind = .connective .or) (hrest : rest.DerivedFrom further) :
      Disjunction.DerivedFrom (.or operand rest) (tokens ++ connective :: further)

end

end FilterQuery

import FilterQuery.Proofs.Query.Canonical
import FilterQuery.Proofs.Query.Layout

/-!
# Canonical texts against the queries they come from

The canonical text of a query that has been read consists of the query's own tokens in their order,
with one blank on each side of a connective and none elsewhere. So it differs from the query in
blanks alone, and is scanned as the same tokens at other offsets.
-/

namespace FilterQuery

/-- A token wherever it stands. -/
structure Lexeme where
  kind : TokenKind
  text : String
  deriving DecidableEq, Repr

namespace Token

def lexeme (token : Token) : Lexeme :=
  ⟨token.kind, token.text⟩

/-- The token as a canonical text shows it: a connective between blanks, any other by itself. -/
def spaced (token : Token) : String :=
  match token.kind with
  | .connective _ => " " ++ token.text ++ " "
  | .key | .value | .punctuation _ => token.text

def spacedText (tokens : List Token) : String :=
  String.join (tokens.map spaced)

@[simp]
theorem spacedText_nil : spacedText [] = "" :=
  rfl

@[simp]
theorem spacedText_cons (token : Token) (tokens : List Token) :
    spacedText (token :: tokens) = token.spaced ++ spacedText tokens := by
  simp [spacedText]

@[simp]
theorem spacedText_append (first second : List Token) :
    spacedText (first ++ second) = spacedText first ++ spacedText second := by
  simp [spacedText]

end Token

/-! ## Texts of kinds -/

/-- What a token of a kind is written as, if the kind tells. -/
def TokenKind.spelling? : TokenKind → Option String
  | .key | .value => none
  | .punctuation .openParen => some "("
  | .punctuation .closeParen => some ")"
  | .punctuation .colon => some ":"
  | .connective .and => some "AND"
  | .connective .or => some "OR"

namespace Token

variable {token : Token} {kind : TokenKind} {tokens : List Token} {query text : String}

theorem Spelled.text_eq (hspelled : token.Spelled) (hkind : token.kind = kind)
    (htext : kind.spelling? = some text) : token.text = text := by
  obtain ⟨_, written, offset⟩ := token
  cases hkind
  cases spelled_iff.1 hspelled with
  | openParen | closeParen | colon | and | or => exact Option.some.inj htext
  | key | value => cases htext

theorem Spelled.kind_of_word (hspelled : token.Spelled)
    (hkind : token.kind = .key ∨ token.kind = .value) : token.kind = .ofWord token.text := by
  cases hspelled with
  | mark hmark => rcases hkind with hkind | hkind <;> cases hkind
  | word hword => rfl

theorem Spelled.lexeme_eq (hspelled : token.Spelled) (hkind : token.kind = kind)
    (htext : kind.spelling? = some text) : token.lexeme = ⟨kind, text⟩ := by
  rw [lexeme, hkind, hspelled.text_eq hkind htext]

theorem Spelled.spaced_connective {word : Connective} (hspelled : token.Spelled)
    (hkind : token.kind = .connective word)
    (htext : (TokenKind.connective word).spelling? = some text) :
    token.spaced = " " ++ text ++ " " := by
  rw [spaced, hkind, hspelled.text_eq hkind htext]

theorem Spelled.spaced_punctuation {mark : Punctuation} (hspelled : token.Spelled)
    (hkind : token.kind = .punctuation mark)
    (htext : (TokenKind.punctuation mark).spelling? = some text) : token.spaced = text := by
  rw [spaced, hkind, hspelled.text_eq hkind htext]

theorem spaced_of_word (hkind : token.kind = .key ∨ token.kind = .value) :
    token.spaced = token.text := by
  rcases hkind with hkind | hkind <;> rw [spaced, hkind]

end Token

/-! ## The tokens of a tree -/

mutual

/-- A tree tells its tokens up to their offsets. -/
def Term.lexemes : Term → List Lexeme
  | .leaf key value => [⟨.key, key⟩, ⟨.punctuation .colon, ":"⟩, ⟨.ofWord value, value⟩]
  | .group inner =>
    ⟨.punctuation .openParen, "("⟩ :: inner.lexemes ++ [⟨.punctuation .closeParen, ")"⟩]

def Conjunction.lexemes : Conjunction → List Lexeme
  | .one term => term.lexemes
  | .and term rest => term.lexemes ++ ⟨.connective .and, "AND"⟩ :: rest.lexemes

def Disjunction.lexemes : Disjunction → List Lexeme
  | .one operand => operand.lexemes
  | .or operand rest => operand.lexemes ++ ⟨.connective .or, "OR"⟩ :: rest.lexemes

end

mutual

theorem Term.lexemes_of_derivedFrom {term : Term} {tokens : List Token}
    (hderived : term.DerivedFrom tokens) (hspelled : ∀ token ∈ tokens, token.Spelled) :
    tokens.map Token.lexeme = term.lexemes := by
  cases hderived with
  | @leaf key colon value hkey hcolon hvalue =>
    have hcolonEq := (hspelled colon (by simp)).lexeme_eq hcolon rfl
    have hvalueKind := (hspelled value (by simp)).kind_of_word hvalue
    rw [Term.lexemes, ← hkey, ← hvalueKind, ← hcolonEq]
    rfl
  | @group opening closing inner tokens hopening hinner hclosing =>
    have hinside : ∀ token ∈ tokens, token.Spelled := by
      intro token htoken
      exact hspelled token (by simp [htoken])
    have hopeningEq := (hspelled opening (by simp)).lexeme_eq hopening rfl
    have hclosingEq := (hspelled closing (by simp)).lexeme_eq hclosing rfl
    rw [Term.lexemes, List.map_append, List.map_cons, hopeningEq,
      Disjunction.lexemes_of_derivedFrom hinner hinside, List.map_singleton, hclosingEq]

theorem Conjunction.lexemes_of_derivedFrom {conjunction : Conjunction} {tokens : List Token}
    (hderived : conjunction.DerivedFrom tokens) (hspelled : ∀ token ∈ tokens, token.Spelled) :
    tokens.map Token.lexeme = conjunction.lexemes := by
  cases hderived with
  | one hterm => exact Term.lexemes_of_derivedFrom hterm hspelled
  | and hterm hconnective hrest =>
    obtain ⟨hfirst, hfurther⟩ := List.forall_mem_append.1 hspelled
    obtain ⟨hword, hsecond⟩ := List.forall_mem_cons.1 hfurther
    rw [Conjunction.lexemes, List.map_append, List.map_cons, hword.lexeme_eq hconnective rfl,
      Term.lexemes_of_derivedFrom hterm hfirst, Conjunction.lexemes_of_derivedFrom hrest hsecond]

theorem Disjunction.lexemes_of_derivedFrom {tree : Disjunction} {tokens : List Token}
    (hderived : tree.DerivedFrom tokens) (hspelled : ∀ token ∈ tokens, token.Spelled) :
    tokens.map Token.lexeme = tree.lexemes := by
  cases hderived with
  | one hoperand => exact Conjunction.lexemes_of_derivedFrom hoperand hspelled
  | or hoperand hconnective hrest =>
    obtain ⟨hfirst, hfurther⟩ := List.forall_mem_append.1 hspelled
    obtain ⟨hword, hsecond⟩ := List.forall_mem_cons.1 hfurther
    rw [Disjunction.lexemes, List.map_append, List.map_cons, hword.lexeme_eq hconnective rfl,
      Conjunction.lexemes_of_derivedFrom hoperand hfirst,
      Disjunction.lexemes_of_derivedFrom hrest hsecond]

end

mutual

theorem Term.canonical_of_derivedFrom {term : Term} {tokens : List Token}
    (hderived : term.DerivedFrom tokens) (hspelled : ∀ token ∈ tokens, token.Spelled) :
    term.canonical = Token.spacedText tokens := by
  cases hderived with
  | @leaf key colon value hkey hcolon hvalue =>
    have hcolonText := (hspelled colon (by simp)).spaced_punctuation hcolon rfl
    have hkeyText := Token.spaced_of_word (.inl hkey)
    have hvalueText := Token.spaced_of_word hvalue
    simp [Term.canonical, hcolonText, hkeyText, hvalueText, String.append_assoc]
  | @group opening closing inner tokens hopening hinner hclosing =>
    have hinside : ∀ token ∈ tokens, token.Spelled := by
      intro token htoken
      exact hspelled token (by simp [htoken])
    have hopeningText := (hspelled opening (by simp)).spaced_punctuation hopening rfl
    have hclosingText := (hspelled closing (by simp)).spaced_punctuation hclosing rfl
    rw [Term.canonical, Disjunction.canonical_of_derivedFrom hinner hinside]
    simp [hopeningText, hclosingText, String.append_assoc]

theorem Conjunction.canonical_of_derivedFrom {conjunction : Conjunction} {tokens : List Token}
    (hderived : conjunction.DerivedFrom tokens) (hspelled : ∀ token ∈ tokens, token.Spelled) :
    conjunction.canonical = Token.spacedText tokens := by
  cases hderived with
  | one hterm => exact Term.canonical_of_derivedFrom hterm hspelled
  | and hterm hconnective hrest =>
    obtain ⟨hfirst, hfurther⟩ := List.forall_mem_append.1 hspelled
    obtain ⟨hword, hsecond⟩ := List.forall_mem_cons.1 hfurther
    rw [Conjunction.canonical, Token.spacedText_append, Token.spacedText_cons,
      hword.spaced_connective hconnective rfl, Term.canonical_of_derivedFrom hterm hfirst,
      Conjunction.canonical_of_derivedFrom hrest hsecond, String.append_assoc]
    rfl

theorem Disjunction.canonical_of_derivedFrom {tree : Disjunction} {tokens : List Token}
    (hderived : tree.DerivedFrom tokens) (hspelled : ∀ token ∈ tokens, token.Spelled) :
    tree.canonical = Token.spacedText tokens := by
  cases hderived with
  | one hoperand => exact Conjunction.canonical_of_derivedFrom hoperand hspelled
  | or hoperand hconnective hrest =>
    obtain ⟨hfirst, hfurther⟩ := List.forall_mem_append.1 hspelled
    obtain ⟨hword, hsecond⟩ := List.forall_mem_cons.1 hfurther
    rw [Disjunction.canonical, Token.spacedText_append, Token.spacedText_cons,
      hword.spaced_connective hconnective rfl,
      Conjunction.canonical_of_derivedFrom hoperand hfirst,
      Disjunction.canonical_of_derivedFrom hrest hsecond, String.append_assoc]
    rfl

end

/-! ## Texts without their blanks -/

namespace Token

variable {token : Token} {tokens : List Token} {query text : String}

/-- The characters of a text that are not blank. -/
def inked (text : String) : List Char :=
  text.toList.filter (!Text.isBlank ·)

theorem inked_append (first second : String) :
    inked (first ++ second) = inked first ++ inked second := by
  rw [inked, String.toList_append, List.filter_append]
  rfl

theorem inked_of_allBlank (hblank : Text.allBlank text = true) : inked text = [] := by
  rw [Text.allBlank, List.all_eq_true] at hblank
  rw [inked, List.filter_eq_nil_iff]
  intro c hc
  simp [hblank c hc]

theorem Spelled.inked_text (hspelled : token.Spelled) : inked token.text = token.text.toList := by
  rw [inked, List.filter_eq_self]
  intro c hc
  simp [hspelled.isBlank_eq_false hc]

theorem inked_written {pieces : List Piece}
    (hblank : ∀ piece ∈ pieces, Text.allBlank piece.gap = true)
    (hspelled : ∀ piece ∈ pieces, piece.token.Spelled) :
    inked (written pieces) = (pieces.map (·.token)).flatMap (·.text.toList) := by
  induction pieces with
  | nil => rfl
  | cons piece pieces ih =>
    obtain ⟨hgap, hgaps⟩ := List.forall_mem_cons.1 hblank
    obtain ⟨htoken, htokens⟩ := List.forall_mem_cons.1 hspelled
    rw [written_cons, Piece.text, inked_append, inked_append, inked_of_allBlank hgap,
      htoken.inked_text, ih hgaps htokens]
    rfl

/-- Without its blanks, a text is the texts of its tokens. -/
theorem inked_of_scan (hscan : scan text = .ok tokens) :
    inked text = tokens.flatMap (·.text.toList) := by
  obtain ⟨pieces, last, rfl, h⟩ := exists_laidOut_of_scan hscan
  have hspelled : ∀ piece ∈ pieces, piece.token.Spelled := fun piece hpiece =>
    spelled_iff.2 (h.writtenAs piece hpiece)
  rw [h.text_eq, inked_append, inked_written h.blank_gap hspelled, inked_of_allBlank h.blank_last,
    List.append_nil]

end Token

namespace Disjunction

variable {tree : Disjunction} {maxDepth : Nat} {query : String}

/-- The canonical text of a query that is read has the tokens of the query, with one blank on each
side of a connective and nothing between any others. -/
theorem canonical_of_ofQuery (hread : ofQuery maxDepth query = .ok tree) :
    ∃ tokens, Token.scan query = .ok tokens ∧
      tree.canonical = String.join (tokens.map Token.spaced) ∧
      (∃ again, Token.scan tree.canonical = .ok again ∧
        again.map Token.lexeme = tokens.map Token.lexeme) ∧
      tree.canonical.toList.filter (!Text.isBlank ·) = query.toList.filter (!Text.isBlank ·) := by
  obtain ⟨tokens, hscan, hderived, hdepth⟩ := ofQuery_eq_ok_iff.1 hread
  obtain ⟨again, hagain, hcanonical⟩ := exists_scan_canonical (leafShaped_of_ofQuery hread)
  have hspelled := Token.spelled_of_scanFrom hscan
  have hlexemes : again.map Token.lexeme = tokens.map Token.lexeme := by
    rw [lexemes_of_derivedFrom hderived hspelled,
      lexemes_of_derivedFrom hcanonical (Token.spelled_of_scanFrom hagain)]
  have hinked : Token.inked tree.canonical = Token.inked query := by
    rw [Token.inked_of_scan hagain, Token.inked_of_scan hscan]
    have htexts := congrArg (List.flatMap fun lexeme => lexeme.text.toList) hlexemes
    rwa [List.flatMap_map, List.flatMap_map] at htexts
  exact ⟨tokens, hscan, canonical_of_derivedFrom hderived hspelled, ⟨again, hagain, hlexemes⟩,
    hinked⟩

/-- Blanks around marks and line breaks around connectives. -/
theorem canonical_of_ofQuery_lines :
    let query := " since :2021\nAND( ( until: 2023)OR\tAND_:or )\n"
    let tree : Disjunction :=
      .one (.and (.leaf "since" "2021") (.one (.group
        (.or (.one (.group (.one (.one (.leaf "until" "2023"))))) (.one (.one (.leaf "AND_" "or")))))))
    ofQuery 2 query = .ok tree ∧
      ∃ tokens, Token.scan query = .ok tokens ∧
        tree.canonical = String.join (tokens.map Token.spaced) ∧
        (∃ again, Token.scan tree.canonical = .ok again ∧
          again.map Token.lexeme = tokens.map Token.lexeme) ∧
        tree.canonical.toList.filter (!Text.isBlank ·) =
          query.toList.filter (!Text.isBlank ·) := by
  intro query tree
  have hread : ofQuery 2 query = .ok tree := by decide +kernel
  exact ⟨hread, canonical_of_ofQuery hread⟩

end Disjunction

end FilterQuery

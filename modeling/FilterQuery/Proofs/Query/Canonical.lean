import FilterQuery.Proofs.Query.Derivation
import FilterQuery.Proofs.Query.Scanning
import FilterQuery.Query.Tree.Printed

/-!
# Canonical texts read back

The canonical text of a tree is scanned as tokens from which the grammar derives the tree, provided
that its keys and values are words a query can hold. No other trees are read from any query, so the
proviso cannot be dropped: a tree is read back from its canonical text exactly if it meets it and
keeps to the nesting limit.
-/

namespace FilterQuery

/-- A query can hold the key and the value. -/
def LeafShaped (leaf : String × String) : Prop :=
  isKeyShaped leaf.1 = true ∧ isValueShaped leaf.2 = true

theorem leafShaped_iff {leaf : String × String} :
    LeafShaped leaf ↔
      isKeyShaped leaf.1 = true ∧
        leaf.2 ≠ "" ∧ (∀ c ∈ leaf.2.toList, isWordChar c = true) ∧
          leaf.2 ≠ "AND" ∧ leaf.2 ≠ "OR" := by
  rw [LeafShaped, isValueShaped, Bool.and_eq_true, Bool.and_eq_true, Option.isNone_iff_eq_none,
    Connective.ofWord?_eq_none_iff, Bool.not_eq_true', ← isWord_iff, IsWord]
  simp only [and_assoc]

/-! ## Scanning composed texts -/

namespace Token

variable {offset : Nat} {text first second : String} {tokens further : List Token} {c : Char}

/-- The text is scanned as the tokens, in front of anything that does not continue its last word. -/
def ScansTo (offset : Nat) (text : String) (tokens : List Token) : Prop :=
  ∀ rest, EndsWord rest → scanFrom offset (text.toList ++ rest) =
    (tokens ++ ·) <$> scanFrom (offset + text.utf8ByteSize) rest

theorem scansTo_empty (offset : Nat) : ScansTo offset "" [] := by
  intro rest _
  simp

theorem scansTo_word (hword : IsWord text) (offset : Nat) :
    ScansTo offset text [⟨.ofWord text, text, offset⟩] := by
  intro rest hends
  exact scanFrom_word hword hends

theorem ScansTo.mark {mark : Punctuation} (hmark : Punctuation.ofChar? c = some mark)
    (htext : ScansTo (offset + c.utf8Size) text tokens) :
    ScansTo offset (c.toString ++ text) (⟨.punctuation mark, c.toString, offset⟩ :: tokens) := by
  intro rest hends
  have hchars : (c.toString ++ text).toList ++ rest = c :: (text.toList ++ rest) := by simp
  rw [hchars, scanFrom_mark hmark, htext rest hends]
  simp [Nat.add_assoc]

theorem ScansTo.blank (hblank : Text.isBlank c = true)
    (htext : ScansTo (offset + c.utf8Size) text tokens) :
    ScansTo offset (c.toString ++ text) tokens := by
  intro rest hends
  have hchars : (c.toString ++ text).toList ++ rest = c :: (text.toList ++ rest) := by simp
  rw [hchars, scanFrom_blank hblank, htext rest hends]
  simp [Nat.add_assoc]

/-- Texts are scanned one after the other if the second cannot continue the first. -/
theorem ScansTo.append (hfirst : ScansTo offset first tokens)
    (hstop : ∀ rest, EndsWord (second.toList ++ rest))
    (hsecond : ScansTo (offset + first.utf8ByteSize) second further) :
    ScansTo offset (first ++ second) (tokens ++ further) := by
  intro rest hends
  rw [String.toList_append, List.append_assoc, hfirst _ (hstop rest), hsecond rest hends]
  simp [Nat.add_assoc]

/-- Two texts are scanned one after the other if a word between blanks joins them. -/
theorem ScansTo.joined {word joint : String} (hword : IsWord word)
    (hjoint : joint = ' '.toString ++ (word ++ ' '.toString))
    (hfirst : ScansTo offset first tokens)
    (hsecond : ScansTo (offset + first.utf8ByteSize + ' '.utf8Size + word.utf8ByteSize +
      ' '.utf8Size) second further) :
    ScansTo offset (first ++ joint ++ second)
      (tokens ++
        ⟨.ofWord word, word, offset + first.utf8ByteSize + ' '.utf8Size⟩ :: further) := by
  have hstop : ∀ text rest, EndsWord ((' '.toString ++ text).toList ++ rest) := by
    intro text rest
    simpa using endsWord_cons (by decide) (text.toList ++ rest)
  -- The blanks on both sides end the words there.
  have hspaced := (scansTo_word hword _).append (hstop second) (hsecond.blank (by decide))
  have hjoined := hfirst.append (hstop _) (hspaced.blank (by decide))
  rw [hjoint, String.append_assoc, String.append_assoc, String.append_assoc]
  exact hjoined

end Token

/-! ## Canonical texts are read as their trees -/

theorem Term.derivedFrom_words {key value : String} (hkey : TokenKind.ofWord key = .key)
    (hvalue : TokenKind.ofWord value = .key ∨ TokenKind.ofWord value = .value)
    (keyOffset colonOffset valueOffset : Nat) :
    (Term.leaf key value).DerivedFrom [⟨.ofWord key, key, keyOffset⟩,
      ⟨.punctuation .colon, ':'.toString, colonOffset⟩, ⟨.ofWord value, value, valueOffset⟩] :=
  @Term.DerivedFrom.leaf ⟨_, key, keyOffset⟩ ⟨_, _, colonOffset⟩ ⟨_, value, valueOffset⟩
    hkey rfl hvalue

mutual

theorem Term.scansTo_canonical (term : Term) (hleaves : ∀ leaf ∈ term.leaves, LeafShaped leaf)
    (offset : Nat) :
    ∃ tokens, term.DerivedFrom tokens ∧ Token.ScansTo offset term.canonical tokens := by
  match term with
  | .leaf key value =>
    have hleaf : LeafShaped (key, value) := hleaves (key, value) List.mem_cons_self
    obtain ⟨hkeyWord, hkeyKind⟩ := isKeyShaped_iff.1 hleaf.1
    obtain ⟨hvalueWord, hvalueKind⟩ := isValueShaped_iff.1 hleaf.2
    have hcolon : ∀ rest, EndsWord ((':'.toString ++ value).toList ++ rest) := by
      intro rest
      simpa using endsWord_cons (by decide) (value.toList ++ rest)
    have hscans := (Token.scansTo_word hkeyWord offset).append hcolon
      ((Token.scansTo_word hvalueWord _).mark rfl)
    rw [← String.append_assoc] at hscans
    exact ⟨_, Term.derivedFrom_words hkeyKind hvalueKind _ _ _, hscans⟩
  | .group inner =>
    rw [Term.leaves] at hleaves
    obtain ⟨tokens, hderived, hinner⟩ :=
      Disjunction.scansTo_canonical inner hleaves (offset + '('.utf8Size)
    have hclosing : ∀ rest, EndsWord ((')'.toString ++ "").toList ++ rest) := by
      intro rest
      simpa using endsWord_cons (by decide) rest
    have hscans := (hinner.append hclosing ((Token.scansTo_empty _).mark rfl)).mark rfl
    rw [String.append_empty, ← String.append_assoc] at hscans
    exact ⟨_, .group rfl hderived rfl, hscans⟩

theorem Conjunction.scansTo_canonical (conjunction : Conjunction)
    (hleaves : ∀ leaf ∈ conjunction.leaves, LeafShaped leaf) (offset : Nat) :
    ∃ tokens, conjunction.DerivedFrom tokens ∧
      Token.ScansTo offset conjunction.canonical tokens := by
  match conjunction with
  | .one term =>
    obtain ⟨tokens, hderived, hscans⟩ := Term.scansTo_canonical term hleaves offset
    exact ⟨tokens, .one hderived, hscans⟩
  | .and term rest =>
    obtain ⟨hterm, hrest⟩ := List.forall_mem_append.1 hleaves
    obtain ⟨tokens, hderived, hscans⟩ := Term.scansTo_canonical term hterm offset
    obtain ⟨further, hfurther, hscansRest⟩ := Conjunction.scansTo_canonical rest hrest
      (offset + term.canonical.utf8ByteSize + ' '.utf8Size + "AND".utf8ByteSize + ' '.utf8Size)
    have hjoined := Token.ScansTo.joined (Connective.isWord_of_ofWord? rfl) rfl hscans hscansRest
    have hkind : TokenKind.ofWord "AND" = .connective .and := by decide
    exact ⟨_, .and hderived hkind hfurther, hjoined⟩

theorem Disjunction.scansTo_canonical (tree : Disjunction)
    (hleaves : ∀ leaf ∈ tree.leaves, LeafShaped leaf) (offset : Nat) :
    ∃ tokens, tree.DerivedFrom tokens ∧ Token.ScansTo offset tree.canonical tokens := by
  match tree with
  | .one operand =>
    obtain ⟨tokens, hderived, hscans⟩ := Conjunction.scansTo_canonical operand hleaves offset
    exact ⟨tokens, .one hderived, hscans⟩
  | .or operand rest =>
    obtain ⟨hoperand, hrest⟩ := List.forall_mem_append.1 hleaves
    obtain ⟨tokens, hderived, hscans⟩ := Conjunction.scansTo_canonical operand hoperand offset
    obtain ⟨further, hfurther, hscansRest⟩ := Disjunction.scansTo_canonical rest hrest
      (offset + operand.canonical.utf8ByteSize + ' '.utf8Size + "OR".utf8ByteSize + ' '.utf8Size)
    have hjoined := Token.ScansTo.joined (Connective.isWord_of_ofWord? rfl) rfl hscans hscansRest
    have hkind : TokenKind.ofWord "OR" = .connective .or := by decide
    exact ⟨_, .or hderived hkind hfurther, hjoined⟩

end

/-! ## Trees that are read have words for keys and values -/

mutual

theorem Term.leafShaped_of_derivedFrom {term : Term} {tokens : List Token}
    (hderived : term.DerivedFrom tokens) (hspelled : ∀ token ∈ tokens, token.Spelled) :
    ∀ leaf ∈ term.leaves, LeafShaped leaf := by
  cases hderived with
  | @leaf key colon value hkey hcolon hvalue =>
    have hkeySpelled := hspelled key (by simp)
    have hvalueSpelled := hspelled value (by simp)
    simpa [Term.leaves] using
      ⟨hkeySpelled.isKeyShaped hkey, hvalueSpelled.isValueShaped hvalue⟩
  | group hopening hinner hclosing =>
    refine Disjunction.leafShaped_of_derivedFrom hinner fun token htoken => ?_
    exact hspelled token (by simp [htoken])

theorem Conjunction.leafShaped_of_derivedFrom {conjunction : Conjunction} {tokens : List Token}
    (hderived : conjunction.DerivedFrom tokens) (hspelled : ∀ token ∈ tokens, token.Spelled) :
    ∀ leaf ∈ conjunction.leaves, LeafShaped leaf := by
  cases hderived with
  | one hterm => exact Term.leafShaped_of_derivedFrom hterm hspelled
  | and hterm hconnective hrest =>
    obtain ⟨hfirst, hfurther⟩ := List.forall_mem_append.1 hspelled
    have hsecond := (List.forall_mem_cons.1 hfurther).2
    exact List.forall_mem_append.2 ⟨Term.leafShaped_of_derivedFrom hterm hfirst,
      Conjunction.leafShaped_of_derivedFrom hrest hsecond⟩

theorem Disjunction.leafShaped_of_derivedFrom {tree : Disjunction} {tokens : List Token}
    (hderived : tree.DerivedFrom tokens) (hspelled : ∀ token ∈ tokens, token.Spelled) :
    ∀ leaf ∈ tree.leaves, LeafShaped leaf := by
  cases hderived with
  | one hoperand => exact Conjunction.leafShaped_of_derivedFrom hoperand hspelled
  | or hoperand hconnective hrest =>
    obtain ⟨hfirst, hfurther⟩ := List.forall_mem_append.1 hspelled
    have hsecond := (List.forall_mem_cons.1 hfurther).2
    exact List.forall_mem_append.2 ⟨Conjunction.leafShaped_of_derivedFrom hoperand hfirst,
      Disjunction.leafShaped_of_derivedFrom hrest hsecond⟩

end

namespace Disjunction

variable {tree : Disjunction} {maxDepth : Nat} {query : String}

/-- Whatever query a tree is read from, its keys and values are words a query can hold. -/
theorem leafShaped_of_ofQuery (hread : ofQuery maxDepth query = .ok tree) :
    ∀ leaf ∈ tree.leaves, LeafShaped leaf := by
  obtain ⟨tokens, hscan, hderived, _⟩ := ofQuery_eq_ok_iff.1 hread
  exact leafShaped_of_derivedFrom hderived (Token.spelled_of_scanFrom hscan)

/-- The canonical text is scanned as tokens of the tree. -/
theorem exists_scan_canonical (hleaves : ∀ leaf ∈ tree.leaves, LeafShaped leaf) :
    ∃ tokens, Token.scan tree.canonical = .ok tokens ∧ tree.DerivedFrom tokens := by
  obtain ⟨tokens, hderived, hscans⟩ := scansTo_canonical tree hleaves 0
  have hscan := hscans [] endsWord_nil
  rw [List.append_nil, Token.scanFrom_nil] at hscan
  refine ⟨tokens, ?_, hderived⟩
  rw [Token.scan, hscan]
  exact congrArg Except.ok (List.append_nil tokens)

/-- A tree is read back from its canonical text exactly if its keys and values are words a query can
hold and it nests no deeper than the limit. -/
theorem ofQuery_canonical_eq_ok_iff (maxDepth : Nat) (tree : Disjunction) :
    ofQuery maxDepth tree.canonical = .ok tree ↔
      (∀ leaf ∈ tree.leaves,
        isKeyShaped leaf.1 = true ∧
          leaf.2 ≠ "" ∧ (∀ c ∈ leaf.2.toList, isWordChar c = true) ∧
            leaf.2 ≠ "AND" ∧ leaf.2 ≠ "OR") ∧
        tree.depth ≤ min maxDepth 128 := by
  simp only [← leafShaped_iff]
  constructor
  · intro hread
    obtain ⟨tokens, _, _, hdepth⟩ := ofQuery_eq_ok_iff.1 hread
    exact ⟨leafShaped_of_ofQuery hread, hdepth⟩
  · rintro ⟨hleaves, hdepth⟩
    obtain ⟨tokens, hscan, hderived⟩ := exists_scan_canonical hleaves
    exact ofQuery_eq_ok_iff.2 ⟨tokens, hscan, hderived, hdepth⟩

end Disjunction

end FilterQuery

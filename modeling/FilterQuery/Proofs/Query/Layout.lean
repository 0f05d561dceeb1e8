import FilterQuery.Proofs.Query.Scanning
import Mathlib.Data.List.Chain

/-!
# Tokens and the blanks around them

A query is scanned as some tokens exactly if it is their texts in order with blanks in front of them
and at the end. Between two words there must be a blank; next to a mark there need not be. Every
offset is the number of bytes in front of the token's text.
-/

namespace FilterQuery

/-- What the tokens of each kind can be written as. -/
inductive TokenKind.WrittenAs : TokenKind → String → Prop
  | openParen : WrittenAs (.punctuation .openParen) "("
  | closeParen : WrittenAs (.punctuation .closeParen) ")"
  | colon : WrittenAs (.punctuation .colon) ":"
  | and : WrittenAs (.connective .and) "AND"
  | or : WrittenAs (.connective .or) "OR"
  | key {word : String} (hword : IsWord word) (hkey : ∀ c ∈ word.toList, isKeyChar c = true)
      (hand : word ≠ "AND") (hor : word ≠ "OR") : WrittenAs .key word
  | value {word : String} (hword : IsWord word) {c : Char} (hc : c ∈ word.toList)
      (hvalue : isKeyChar c = false) : WrittenAs .value word

namespace Token

/-- A token and the blanks in front of it. -/
structure Piece where
  gap : String
  token : Token

/-- The text of the token after the blanks. -/
def Piece.text (piece : Piece) : String :=
  piece.gap ++ piece.token.text

/-- The text of several pieces. -/
def written (pieces : List Piece) : String :=
  String.join (pieces.map Piece.text)

@[simp]
theorem written_nil : written [] = "" :=
  rfl

@[simp]
theorem written_cons (piece : Piece) (pieces : List Piece) :
    written (piece :: pieces) = piece.text ++ written pieces := by
  simp [written]

/-- A text, in front of which are `offset` bytes, consists of some pieces and a gap at the end. -/
structure LaidOut (offset : Nat) (text : String) (pieces : List Piece) (last : String) : Prop where
  text_eq : text = written pieces ++ last
  blank_gap : ∀ piece ∈ pieces, Text.allBlank piece.gap = true
  blank_last : Text.allBlank last = true
  writtenAs : ∀ piece ∈ pieces, piece.token.kind.WrittenAs piece.token.text
  /-- A word that follows a word stands apart from it. -/
  words_apart : pieces.IsChain fun left right =>
    IsWord left.token.text → IsWord right.token.text → right.gap ≠ ""
  offset_eq : ∀ before piece after, pieces = before ++ piece :: after →
    piece.token.offset = offset + (written before ++ piece.gap).utf8ByteSize

end Token

/-! ## Kinds of words and marks -/

theorem Punctuation.writtenAs_of_ofChar? {c : Char} {mark : Punctuation}
    (hmark : Punctuation.ofChar? c = some mark) :
    (TokenKind.punctuation mark).WrittenAs c.toString := by
  rw [ofChar?] at hmark
  split at hmark
  · next h => subst h; cases hmark; exact .openParen
  · split at hmark
    · next h => subst h; cases hmark; exact .closeParen
    · split at hmark
      · next h => subst h; cases hmark; exact .colon
      · cases hmark

theorem Connective.writtenAs_of_ofWord? {word : String} {known : Connective}
    (hknown : Connective.ofWord? word = some known) :
    (TokenKind.connective known).WrittenAs word := by
  rw [ofWord?] at hknown
  split at hknown
  · next h => subst h; cases hknown; exact .and
  · split at hknown
    · next h => subst h; cases hknown; exact .or
    · cases hknown

theorem Connective.isKeyChar_of_ofWord? {word : String} {known : Connective}
    (hknown : Connective.ofWord? word = some known) : ∀ c ∈ word.toList, isKeyChar c = true := by
  have hwritten := writtenAs_of_ofWord? hknown
  rw [← List.all_eq_true]
  cases hwritten <;> decide

theorem TokenKind.writtenAs_ofWord {word : String} (hword : IsWord word) :
    (TokenKind.ofWord word).WrittenAs word := by
  rw [ofWord]
  cases hknown : Connective.ofWord? word with
  | some known => exact Connective.writtenAs_of_ofWord? hknown
  | none =>
    obtain ⟨hand, hor⟩ := Connective.ofWord?_eq_none_iff.1 hknown
    by_cases hkey : ∀ c ∈ word.toList, isKeyChar c = true
    · rw [List.all_eq_true.2 hkey]
      exact .key hword hkey hand hor
    · obtain ⟨c, hc, hvalue⟩ := not_forall₂.1 hkey
      have hall : word.toList.all isKeyChar = false := List.all_eq_false.2 ⟨c, hc, hvalue⟩
      simp only [hall, Bool.false_eq_true, if_false]
      exact .value hword hc (Bool.not_eq_true _ ▸ hvalue)

namespace Token

variable {offset : Nat} {token : Token} {text last : String} {piece : Piece} {pieces : List Piece}

/-- The tokens of a scan are those of the kinds and texts that a query can hold. -/
theorem spelled_iff : token.Spelled ↔ token.kind.WrittenAs token.text := by
  constructor
  · intro hspelled
    cases hspelled with
    | mark hmark => exact Punctuation.writtenAs_of_ofChar? hmark
    | word hword => exact TokenKind.writtenAs_ofWord hword
  · obtain ⟨kind, text, offset⟩ := token
    intro hwritten
    cases hwritten with
    | openParen => exact .mark (c := '(') rfl
    | closeParen => exact .mark (c := ')') rfl
    | colon => exact .mark (c := ':') rfl
    | and =>
      have hword : IsWord "AND" := Connective.isWord_of_ofWord? rfl
      exact .word hword
    | or =>
      have hword : IsWord "OR" := Connective.isWord_of_ofWord? rfl
      exact .word hword
    | key hword hkey hand hor =>
      have hkind : TokenKind.ofWord text = .key := by
        rw [TokenKind.ofWord, Connective.ofWord?_eq_none_iff.2 ⟨hand, hor⟩]
        simpa using hkey
      exact hkind ▸ .word hword
    | @value _ hword c hc hvalue =>
      have hkind : TokenKind.ofWord text = .value := by
        cases hknown : Connective.ofWord? text with
        | some known => simp [Connective.isKeyChar_of_ofWord? hknown c hc] at hvalue
        | none =>
          rw [TokenKind.ofWord, hknown]
          simpa using ⟨c, hc, hvalue⟩
      exact hkind ▸ .word hword

/-! ## Layouts piece by piece -/

theorem isWordChar_of_isBlank {c : Char} (hblank : Text.isBlank c = true) :
    isWordChar c = false := by
  by_contra hword
  rw [isBlank_of_isWordChar (by simpa using hword)] at hblank
  cases hblank

theorem isWordChar_of_ofChar? {c : Char} {mark : Punctuation}
    (hmark : Punctuation.ofChar? c = some mark) : isWordChar c = false := by
  by_contra hword
  rw [Punctuation.ofChar?_of_isWordChar (by simpa using hword)] at hmark
  cases hmark

theorem endsWord_of_allBlank {rest : List Char} (hblank : Text.allBlank text = true)
    (hempty : text = "" → EndsWord rest) : EndsWord (text.toList ++ rest) := by
  cases hchars : text.toList with
  | nil => exact hempty (String.toList_eq_nil_iff.1 hchars)
  | cons c chars =>
    have hc := List.all_eq_true.1 hblank c (by simp [hchars])
    exact endsWord_cons (isWordChar_of_isBlank hc) (chars ++ rest)

/-- A token ends the word before it if it is no word itself. -/
theorem Spelled.endsWord_iff (hspelled : token.Spelled) (rest : List Char) :
    EndsWord (token.text.toList ++ rest) ↔ ¬ IsWord token.text := by
  cases hspelled with
  | @mark c mark offset hmark =>
    have hc := isWordChar_of_ofChar? hmark
    have hends : EndsWord (c.toString.toList ++ rest) := by simpa using endsWord_cons hc rest
    have hword : ¬ IsWord c.toString := by
      rintro ⟨_, hchars⟩
      have htrue := hchars c (by simp)
      rw [hc] at htrue
      cases htrue
    exact iff_of_true hends hword
  | @word word offset hword =>
    refine iff_of_false ?_ (not_not_intro hword)
    obtain ⟨hnonempty, hchars⟩ := hword
    intro hends
    cases hlist : word.toList with
    | nil => exact hnonempty (String.toList_eq_nil_iff.1 hlist)
    | cons c chars =>
      have htrue := hchars c (by simp [hlist])
      rw [hends c (by simp [hlist])] at htrue
      cases htrue

/-- A piece ends the word before it unless it is a word with no gap in front of it. -/
theorem endsWord_piece_iff (hblank : Text.allBlank piece.gap = true)
    (hspelled : piece.token.Spelled) (rest : List Char) :
    EndsWord (piece.text.toList ++ rest) ↔ (IsWord piece.token.text → piece.gap ≠ "") := by
  rw [Piece.text, String.toList_append, List.append_assoc]
  by_cases hgap : piece.gap = ""
  · simp [hgap, hspelled.endsWord_iff]
  · refine iff_of_true (endsWord_of_allBlank hblank fun hempty => ?_) fun _ => hgap
    exact absurd hempty hgap

/-- The text after a word does not continue it if no word follows without a gap. -/
theorem LaidOut.endsWord_iff (h : LaidOut offset text pieces last) :
    EndsWord text.toList ↔ ∀ next ∈ pieces.head?, IsWord next.token.text → next.gap ≠ "" := by
  rw [h.text_eq]
  cases pieces with
  | nil =>
    have hends := endsWord_of_allBlank h.blank_last fun _ => endsWord_nil
    simpa using hends
  | cons next others =>
    have hnext := h.blank_gap next List.mem_cons_self
    have hspelled := spelled_iff.2 (h.writtenAs next List.mem_cons_self)
    simpa using endsWord_piece_iff hnext hspelled (written others ++ last).toList

theorem offsets_cons_iff :
    (∀ before next after, piece :: pieces = before ++ next :: after →
        next.token.offset = offset + (written before ++ next.gap).utf8ByteSize) ↔
      piece.token.offset = offset + piece.gap.utf8ByteSize ∧
        ∀ before next after, pieces = before ++ next :: after →
          next.token.offset = piece.token.stop + (written before ++ next.gap).utf8ByteSize := by
  constructor
  · intro hoffsets
    have hfirst : piece.token.offset = offset + piece.gap.utf8ByteSize := by
      simpa using hoffsets [] piece pieces rfl
    refine ⟨hfirst, fun before next after hpieces => ?_⟩
    have hnext := hoffsets (piece :: before) next after (by rw [hpieces, List.cons_append])
    rw [hnext, stop, hfirst]
    simp [Piece.text]
    omega
  · rintro ⟨hfirst, hoffsets⟩ before next after hpieces
    rcases List.cons_eq_append_iff.1 hpieces with ⟨rfl, hnext⟩ | ⟨others, rfl, hothers⟩
    · obtain ⟨rfl, _⟩ := List.cons.inj hnext
      simpa using hfirst
    · rw [hoffsets others next after hothers, stop, hfirst]
      simp [Piece.text]
      omega

/-- The pieces after the first start where its token ends and do not continue its word. -/
theorem laidOut_cons_iff :
    LaidOut offset text (piece :: pieces) last ↔
      ∃ rest, text = piece.text ++ rest ∧ Text.allBlank piece.gap = true ∧
        piece.token.Spelled ∧ (IsWord piece.token.text → EndsWord rest.toList) ∧
          piece.token.offset = offset + piece.gap.utf8ByteSize ∧
            LaidOut piece.token.stop rest pieces last := by
  constructor
  · intro h
    obtain ⟨hblank, hblanks⟩ := List.forall_mem_cons.1 h.blank_gap
    obtain ⟨hwritten, hothers⟩ := List.forall_mem_cons.1 h.writtenAs
    obtain ⟨hapart, hchain⟩ := List.isChain_cons.1 h.words_apart
    obtain ⟨hoffset, hoffsets⟩ := offsets_cons_iff.1 h.offset_eq
    have hrest : LaidOut piece.token.stop (written pieces ++ last) pieces last :=
      ⟨rfl, hblanks, h.blank_last, hothers, hchain, hoffsets⟩
    refine ⟨_, ?_, hblank, spelled_iff.2 hwritten, fun hword => ?_, hoffset, hrest⟩
    · rw [h.text_eq, written_cons, String.append_assoc]
    · exact hrest.endsWord_iff.2 fun next hnext => hapart next hnext hword
  · rintro ⟨rest, htext, hblank, hspelled, hends, hoffset, hrest⟩
    refine ⟨?_, ?_, hrest.blank_last, ?_, ?_, ?_⟩
    · rw [htext, hrest.text_eq, written_cons, String.append_assoc]
    · exact List.forall_mem_cons.2 ⟨hblank, hrest.blank_gap⟩
    · exact List.forall_mem_cons.2 ⟨spelled_iff.1 hspelled, hrest.writtenAs⟩
    · refine List.isChain_cons.2 ⟨fun next hnext hword => ?_, hrest.words_apart⟩
      exact hrest.endsWord_iff.1 (hends hword) next hnext
    · exact offsets_cons_iff.2 ⟨hoffset, hrest.offset_eq⟩

/-! ## Scans and layouts -/

theorem scanFrom_gap {gap : String} (hblank : Text.allBlank gap = true) (chars : List Char) :
    scanFrom offset (gap.toList ++ chars) = scanFrom (offset + gap.utf8ByteSize) chars := by
  obtain ⟨blanks, rfl⟩ : ∃ blanks, gap = String.ofList blanks :=
    ⟨gap.toList, String.ofList_toList.symm⟩
  rw [Text.allBlank, String.toList_ofList] at hblank
  rw [String.toList_ofList]
  induction blanks generalizing offset with
  | nil => simp
  | cons c blanks ih =>
    obtain ⟨hc, hblanks⟩ := List.forall_mem_cons.1 (List.all_eq_true.1 hblank)
    rw [List.cons_append, scanFrom_blank hc, ih (List.all_eq_true.2 hblanks)]
    simp [String.ofList_cons, Nat.add_assoc]

/-- A scan takes a token and goes on behind it, if what follows does not continue a word. -/
theorem scanFrom_token (hspelled : token.Spelled) {rest : List Char}
    (hends : IsWord token.text → EndsWord rest) :
    scanFrom token.offset (token.text.toList ++ rest) =
      (token :: ·) <$> scanFrom token.stop rest := by
  cases hspelled with
  | mark hmark => simpa [stop] using scanFrom_mark hmark
  | word hword => exact scanFrom_word hword (hends hword)

/-- A scan takes the tokens of a layout and goes on behind it. -/
theorem scanFrom_append_of_laidOut (h : LaidOut offset text pieces last) {rest : List Char}
    (hends : EndsWord rest) :
    scanFrom offset (text.toList ++ rest) =
      (pieces.map (·.token) ++ ·) <$> scanFrom (offset + text.utf8ByteSize) rest := by
  induction pieces generalizing offset text with
  | nil =>
    have htext : text = last := by simpa using h.text_eq
    rw [htext, scanFrom_gap h.blank_last]
    exact (id_map _).symm
  | cons piece pieces ih =>
    obtain ⟨further, rfl, hblank, hspelled, hword, hoffset, hfurther⟩ := laidOut_cons_iff.1 h
    have hbehind : IsWord piece.token.text → EndsWord (further.toList ++ rest) := by
      intro hpiece
      exact (hword hpiece).append hends
    have hstop : piece.token.stop + further.utf8ByteSize =
        offset + (piece.text ++ further).utf8ByteSize := by
      rw [stop, hoffset]
      simp [Piece.text]
      omega
    rw [Piece.text, String.append_assoc, String.toList_append, List.append_assoc,
      scanFrom_gap hblank, ← hoffset, String.toList_append, List.append_assoc,
      scanFrom_token hspelled hbehind, ih hfurther, hstop, Piece.text, String.append_assoc]
    simp only [Functor.map_map]
    rfl

theorem scanFrom_of_laidOut (h : LaidOut offset text pieces last) :
    scanFrom offset text.toList = .ok (pieces.map (·.token)) := by
  have hscan := scanFrom_append_of_laidOut h endsWord_nil
  rw [List.append_nil, scanFrom_nil] at hscan
  rw [hscan]
  exact congrArg Except.ok (List.append_nil _)

theorem endsWord_dropWhile (chars : List Char) : EndsWord (chars.dropWhile isWordChar) := by
  intro c hc
  have hnot := List.head?_dropWhile_not isWordChar chars
  rw [Option.mem_def.1 hc] at hnot
  exact hnot

theorem laidOut_nil (hblank : Text.allBlank last = true) : LaidOut offset last [] last :=
  ⟨by simp, by simp, hblank, by simp, .nil, by simp⟩

theorem append_ofList_cons (gap : String) (c : Char) (rest : List Char) :
    gap ++ String.ofList (c :: rest) = gap ++ c.toString ++ String.ofList rest := by
  rw [String.ofList_cons, String.append_assoc]
  rfl

/-- A token behind a gap goes in front of a layout of what follows it. -/
theorem exists_laidOut_cons {gap rest : String} {further : List Token}
    (hblank : Text.allBlank gap = true) (hoffset : token.offset = offset + gap.utf8ByteSize)
    (hspelled : token.Spelled) (hends : IsWord token.text → EndsWord rest.toList)
    (hrest : ∃ pieces last, pieces.map (·.token) = further ∧
      LaidOut token.stop rest pieces last) :
    ∃ pieces last, pieces.map (·.token) = token :: further ∧
      LaidOut offset (gap ++ (token.text ++ rest)) pieces last := by
  obtain ⟨pieces, last, rfl, h⟩ := hrest
  refine ⟨⟨gap, token⟩ :: pieces, last, rfl, ?_⟩
  have htext : gap ++ (token.text ++ rest) = Piece.text ⟨gap, token⟩ ++ rest :=
    String.append_assoc.symm
  exact laidOut_cons_iff.2 ⟨rest, htext, hblank, hspelled, hends, hoffset, h⟩

/-- The blanks that have been passed since `offset` are the gap in front of the next token. -/
theorem laidOut_of_scanFrom {start : Nat} {chars : List Char} {tokens : List Token} {gap : String}
    (hscan : scanFrom start chars = .ok tokens) (hblank : Text.allBlank gap = true)
    (hstart : start = offset + gap.utf8ByteSize) :
    ∃ pieces last, pieces.map (·.token) = tokens ∧
      LaidOut offset (gap ++ String.ofList chars) pieces last := by
  fun_induction scanFrom start chars generalizing offset gap tokens with
  | case1 start =>
    cases hscan
    refine ⟨[], gap, rfl, ?_⟩
    simpa using laidOut_nil hblank
  | case2 start c rest hc ih =>
    have hlonger : Text.allBlank (gap ++ c.toString) = true := by
      rw [Text.allBlank, List.all_eq_true] at hblank ⊢
      intro d hd
      rw [String.toList_append, List.mem_append] at hd
      rcases hd with hd | hd
      · exact hblank d hd
      · have heq : d = c := by simpa using hd
        exact heq ▸ hc
    have hnext : start + c.utf8Size = offset + (gap ++ c.toString).utf8ByteSize := by
      simp [hstart, Nat.add_assoc]
    obtain ⟨pieces, last, htokens, h⟩ := ih hscan hlonger hnext
    exact ⟨pieces, last, htokens, append_ofList_cons gap c rest ▸ h⟩
  | case3 start c rest hc mark hmark ih =>
    obtain ⟨further, hfurther, rfl⟩ := map_eq_ok_iff.1 hscan
    have hspelled : Spelled ⟨.punctuation mark, c.toString, start⟩ := .mark hmark
    have hends (hword : IsWord c.toString) : EndsWord (String.ofList rest).toList := by
      have htrue := hword.2 c (by simp)
      rw [isWordChar_of_ofChar? hmark] at htrue
      cases htrue
    have hrest : ∃ pieces last, pieces.map (·.token) = further ∧
        LaidOut (start + c.utf8Size) ("" ++ String.ofList rest) pieces last :=
      ih hfurther rfl (Nat.add_zero _).symm
    have h := exists_laidOut_cons hblank hstart hspelled hends (by simpa [stop] using hrest)
    rwa [append_ofList_cons, String.append_assoc]
  | case4 start c rest hc hmark hword word =>
    rename_i ih
    obtain ⟨further, hfurther, rfl⟩ := map_eq_ok_iff.1 hscan
    have hchars : word.toList = c :: rest.takeWhile isWordChar := String.toList_ofList
    have hspelled : Spelled ⟨.ofWord word, word, start⟩ := .word (isWord_takeWhile hword rest)
    have hends (_ : IsWord word) :
        EndsWord (String.ofList (rest.dropWhile isWordChar)).toList := by
      simpa using endsWord_dropWhile rest
    have hrest : ∃ pieces last, pieces.map (·.token) = further ∧
        LaidOut (start + word.utf8ByteSize) ("" ++ String.ofList (rest.dropWhile isWordChar))
          pieces last :=
      ih hfurther rfl (Nat.add_zero _).symm
    have hsplit : String.ofList (c :: rest) =
        word ++ String.ofList (rest.dropWhile isWordChar) := by
      rw [← String.ofList_append, List.cons_append, List.takeWhile_append_dropWhile]
    have h := exists_laidOut_cons hblank hstart hspelled hends (by simpa [stop] using hrest)
    rwa [hsplit]
  | case5 start c rest hc hmark hword => cases hscan

theorem exists_laidOut_of_scan {query : String} {tokens : List Token}
    (hscan : scan query = .ok tokens) :
    ∃ pieces last, pieces.map (·.token) = tokens ∧ LaidOut 0 query pieces last := by
  have h : ∃ pieces last, pieces.map (·.token) = tokens ∧
      LaidOut 0 ("" ++ String.ofList query.toList) pieces last :=
    laidOut_of_scanFrom hscan rfl rfl
  rwa [String.empty_append, String.ofList_toList] at h

/-- A query is scanned as some tokens exactly if it consists of their texts with blanks around them,
where no two words meet. -/
theorem scan_eq_ok_iff (query : String) (tokens : List Token) :
    scan query = .ok tokens ↔
      ∃ pieces last, pieces.map (·.token) = tokens ∧ LaidOut 0 query pieces last := by
  constructor
  · exact exists_laidOut_of_scan
  · rintro ⟨pieces, last, rfl, h⟩
    exact scanFrom_of_laidOut h

/-! ## The order of tokens -/

theorem LaidOut.within (h : LaidOut offset text pieces last) (hpiece : piece ∈ pieces) :
    offset ≤ piece.token.offset ∧ piece.token.stop ≤ offset + text.utf8ByteSize := by
  obtain ⟨before, after, rfl⟩ := List.append_of_mem hpiece
  have hoffset := h.offset_eq before piece after rfl
  have hsize : text.utf8ByteSize = (written before).utf8ByteSize + piece.gap.utf8ByteSize +
      piece.token.text.utf8ByteSize + (written after).utf8ByteSize + last.utf8ByteSize := by
    rw [h.text_eq]
    simp [written, Piece.text]
    omega
  rw [String.utf8ByteSize_append] at hoffset
  rw [stop]
  omega

theorem LaidOut.ascending (h : LaidOut offset text pieces last) :
    pieces.Pairwise fun left right => left.token.stop ≤ right.token.offset := by
  induction pieces generalizing offset text with
  | nil => exact .nil
  | cons piece pieces ih =>
    obtain ⟨rest, _, _, _, _, _, hrest⟩ := laidOut_cons_iff.1 h
    apply List.pairwise_cons.2
    exact ⟨fun other hother => (hrest.within hother).1, ih hrest⟩

/-- What stands in front of a piece is laid out as the pieces before it. -/
theorem LaidOut.front {earlier later : List Piece}
    (h : LaidOut offset text (earlier ++ piece :: later) last) :
    LaidOut offset (written earlier ++ piece.gap) earlier piece.gap := by
  have hmem : ∀ before ∈ earlier, before ∈ earlier ++ piece :: later := fun before hbefore =>
    List.mem_append_left _ hbefore
  exact {
    text_eq := rfl
    blank_gap := fun before hbefore => h.blank_gap before (hmem before hbefore)
    blank_last := h.blank_gap piece (by simp)
    writtenAs := fun before hbefore => h.writtenAs before (hmem before hbefore)
    words_apart := h.words_apart.left_of_append
    offset_eq := fun before next after hearlier =>
      h.offset_eq before next (after ++ piece :: later) (by simp [hearlier]) }

/-- A token of a scan stands behind as many bytes as its offset says, and these are scanned as the
tokens before it. -/
theorem exists_split_of_scan {query : String} {earlier later : List Token}
    (hscan : scan query = .ok (earlier ++ token :: later)) :
    ∃ before rest, query = before ++ (token.text ++ rest) ∧ token.offset = before.utf8ByteSize ∧
      token.Spelled ∧ scan before = .ok earlier := by
  have hspelled := spelled_of_scanFrom hscan token (by simp)
  obtain ⟨pieces, last, hpieces, hlaid⟩ := exists_laidOut_of_scan hscan
  obtain ⟨front, back, rfl, rfl, hback⟩ := List.map_eq_append_iff.1 hpieces
  obtain ⟨piece, behind, rfl, rfl, rfl⟩ := List.map_eq_cons_iff.1 hback
  refine ⟨written front ++ piece.gap, written behind ++ last, ?_, ?_, hspelled, ?_⟩
  · rw [hlaid.text_eq]
    simp [written, Piece.text, String.append_assoc]
  · rw [hlaid.offset_eq front piece behind rfl, Nat.zero_add]
  · exact scanFrom_of_laidOut hlaid.front

/-- Every token of a query ends where the query ends or before. -/
theorem stop_le_of_scan {query : String} {tokens : List Token} (hscan : scan query = .ok tokens)
    (htoken : token ∈ tokens) : token.stop ≤ query.utf8ByteSize := by
  obtain ⟨pieces, last, rfl, h⟩ := exists_laidOut_of_scan hscan
  obtain ⟨piece, hpiece, rfl⟩ := List.mem_map.1 htoken
  have hstop := (h.within hpiece).2
  rwa [Nat.zero_add] at hstop

/-- Every token of a query ends where the next one starts or before. -/
theorem ascending_of_scan {query : String} {tokens : List Token}
    (hscan : scan query = .ok tokens) :
    tokens.Pairwise fun left right => left.stop ≤ right.offset := by
  obtain ⟨pieces, last, rfl, h⟩ := exists_laidOut_of_scan hscan
  exact List.pairwise_map.2 h.ascending

end Token

end FilterQuery

import FilterQuery.Proofs.Query.Layout
import FilterQuery.Proofs.Terminal.Stripping
import Mathlib.Data.String.Basic

/-!
# Highlighted queries

The tokens of a query cover it up to blanks, so that highlighting can cut every gap out of the query
by the bytes between two tokens, and puts in nothing but codes. Without these the query is left.
-/

namespace FilterQuery.Style

open Token (Piece LaidOut written laidOut_cons_iff)

/-! ## Cutting by bytes -/

/-- What a text holds between two of its bytes, if these come in this order and each is the first of
a character or the end of the text. -/
def slice? (text : String) (start stop : Nat) : Option String :=
  if start ≤ stop ∧ String.Pos.Raw.IsValid text ⟨start⟩ ∧ String.Pos.Raw.IsValid text ⟨stop⟩ then
    some (String.Pos.Raw.extract text ⟨start⟩ ⟨stop⟩)
  else none

/-- What highlighting makes of the query behind byte `position`, where the text between tokens is
cut out by the positions of their bytes. -/
def paintSlices? (query : String) (position : Nat) : List Token → Option String
  | [] => slice? query position query.utf8ByteSize
  | token :: rest => do
    let gap ← slice? query position token.offset
    let painted ← paintSlices? query token.stop rest
    return gap ++ paintToken token ++ painted

/-- The highlighted query by slices, if it has all of them. -/
def highlightSlices? (query : String) : Option String :=
  match Token.scan query with
  | .ok tokens => paintSlices? query 0 tokens
  | .error _ => some query

/-- The bytes of a text end where a character of the text behind it starts, or at the end. -/
theorem isValid_append (before after : String) :
    String.Pos.Raw.IsValid (before ++ after) ⟨before.utf8ByteSize⟩ :=
  String.Pos.Raw.isValid_iff_exists_append.2 ⟨before, after, rfl, rfl⟩

theorem slice?_append (before part after : String) :
    slice? (before ++ part ++ after) before.utf8ByteSize (before ++ part).utf8ByteSize =
      some part := by
  have hstart : String.Pos.Raw.IsValid (before ++ part ++ after) ⟨before.utf8ByteSize⟩ := by
    rw [String.append_assoc]
    exact isValid_append before (part ++ after)
  have hstop := isValid_append (before ++ part) after
  have hle : before.utf8ByteSize ≤ (before ++ part).utf8ByteSize := by
    rw [String.utf8ByteSize_append]
    exact Nat.le_add_right _ _
  have hextract := String.extract_of_valid before.toList part.toList after.toList
  simp only [String.ofList_append, String.ofList_toList, String.utf8Len_toList,
    ← String.utf8ByteSize_append] at hextract
  rw [slice?, if_pos ⟨hle, hstart, hstop⟩, hextract]

theorem splitBytes_append (before after : List Char) :
    splitBytes (String.ofList before).utf8ByteSize (before ++ after) = (before, after) := by
  induction before with
  | nil => cases after <;> rfl
  | cons c before ih =>
    have hsize : (String.ofList (c :: before)).utf8ByteSize =
        c.utf8Size + (String.ofList before).utf8ByteSize := by
      simp [String.ofList_cons]
    have hpos := c.utf8Size_pos
    rw [hsize, List.cons_append, splitBytes, if_neg (by omega), Nat.add_sub_cancel_left, ih]

theorem splitBytes_toList_append (before after : String) :
    splitBytes before.utf8ByteSize (before ++ after).toList = (before.toList, after.toList) := by
  have hsplit := splitBytes_append before.toList after.toList
  rwa [String.ofList_toList, ← String.toList_append] at hsplit

/-! ## Painted layouts -/

/-- The text of several pieces with painted tokens. -/
def painted (pieces : List Piece) : String :=
  String.join (pieces.map fun piece => piece.gap ++ paintToken piece.token)

variable {offset : Nat} {text last : String} {piece : Piece} {pieces : List Piece}

theorem painted_cons (piece : Piece) (pieces : List Piece) :
    painted (piece :: pieces) = piece.gap ++ paintToken piece.token ++ painted pieces := by
  simp [painted]

theorem paintFrom_of_laidOut (h : LaidOut offset text pieces last) :
    paintFrom offset text.toList (pieces.map (·.token)) = painted pieces ++ last := by
  induction pieces generalizing offset text with
  | nil =>
    have htext : text = last := by simpa using h.text_eq
    rw [List.map_nil, paintFrom, htext, String.ofList_toList]
    rfl
  | cons piece pieces ih =>
    obtain ⟨rest, rfl, _, _, _, hoffset, hrest⟩ := laidOut_cons_iff.1 h
    have hgap : piece.token.offset - offset = piece.gap.utf8ByteSize := by omega
    rw [List.map_cons, paintFrom, hgap, Piece.text, String.append_assoc, painted_cons]
    simp only [splitBytes_toList_append, String.ofList_toList, ih hrest, String.append_assoc]

/-- Every gap can be cut out of a query, whatever stands in front of its layout. -/
theorem paintSlices?_of_laidOut (before : String)
    (h : LaidOut before.utf8ByteSize text pieces last) :
    paintSlices? (before ++ text) before.utf8ByteSize (pieces.map (·.token)) =
      some (painted pieces ++ last) := by
  induction pieces generalizing before text with
  | nil =>
    have htext : text = last := by simpa using h.text_eq
    have hslice := slice?_append before text ""
    rw [String.append_empty] at hslice
    rw [List.map_nil, paintSlices?, hslice, htext]
    simp [painted]
  | cons piece pieces ih =>
    obtain ⟨rest, rfl, _, _, _, hoffset, hrest⟩ := laidOut_cons_iff.1 h
    have hstart : piece.token.offset = (before ++ piece.gap).utf8ByteSize := by
      rw [hoffset, String.utf8ByteSize_append]
    have hstop : piece.token.stop = (before ++ piece.text).utf8ByteSize := by
      rw [Token.stop, hstart, Piece.text, ← String.utf8ByteSize_append, String.append_assoc]
    have hgap := slice?_append before piece.gap (piece.token.text ++ rest)
    have hquery : before ++ piece.gap ++ (piece.token.text ++ rest) =
        before ++ piece.text ++ rest := by
      simp only [Piece.text, String.append_assoc]
    rw [hquery] at hgap
    rw [hstop] at hrest
    -- For the tokens that follow, the gap and the token stand in front of the layout too.
    rw [List.map_cons, paintSlices?, ← String.append_assoc, hstart, hstop, hgap,
      ih (before ++ piece.text) hrest, painted_cons, String.append_assoc]
    rfl

/-! ## Stripped layouts -/

theorem exists_paint_token (token : Token) :
    ∃ painting : String, Vanishes painting.toList ∧
      paintToken token = paint painting token.text := by
  rw [paintToken]
  cases token.kind with
  | key => exact ⟨cyan, vanishes_code (by decide), rfl⟩
  | value => exact ⟨green, vanishes_code (by decide), rfl⟩
  | connective word =>
    exact ⟨bold ++ magenta, .append vanishes_bold (vanishes_code (by decide)), rfl⟩
  | punctuation mark => exact ⟨faint, vanishes_code (by decide), rfl⟩

/-- Of painted pieces that hold no escape character the pieces are left. -/
theorem stripFrom_painted (hescape : '\x1b' ∉ (written pieces).toList) (rest : List Char) :
    stripFrom false ((painted pieces).toList ++ rest) =
      (written pieces).toList ++ stripFrom false rest := by
  induction pieces with
  | nil => rfl
  | cons piece pieces ih =>
    obtain ⟨painting, hpainting, hpaint⟩ := exists_paint_token piece.token
    have hchars : (written (piece :: pieces)).toList =
        piece.gap.toList ++ (piece.token.text.toList ++ (written pieces).toList) := by
      simp [Piece.text]
    rw [hchars, List.mem_append, List.mem_append, not_or, not_or] at hescape
    obtain ⟨hgap, htoken, hothers⟩ := hescape
    calc
      stripFrom false ((painted (piece :: pieces)).toList ++ rest)
      _ = stripFrom false (piece.gap.toList ++ ((paint painting piece.token.text).toList ++
            ((painted pieces).toList ++ rest))) := by
        rw [painted_cons, hpaint]
        simp only [String.toList_append, List.append_assoc]
      _ = stripFrom false piece.gap.toList ++ (stripFrom false piece.token.text.toList ++
            stripFrom false ((painted pieces).toList ++ rest)) :=
        stripFrom_append_paint hpainting false _ _ _
      _ = (written (piece :: pieces)).toList ++ stripFrom false rest := by
        rw [stripFrom_of_no_escape hgap, stripFrom_of_no_escape htoken, ih hothers, hchars]
        simp only [List.append_assoc]

theorem strip_highlightQuery {query : String} (hescape : '\x1b' ∉ query.toList) :
    strip (highlightQuery query) = query := by
  rw [highlightQuery]
  cases hscan : Token.scan query with
  | error fault => exact strip_of_no_escape hescape
  | ok tokens =>
    obtain ⟨pieces, last, rfl, h⟩ := Token.exists_laidOut_of_scan hscan
    have hquery := h.text_eq
    rw [hquery, String.toList_append, List.mem_append, not_or] at hescape
    have hlast := stripFrom_of_no_escape hescape.2
    simp only [paintFrom_of_laidOut h]
    rw [strip, String.toList_append, stripFrom_painted hescape.1, hlast, ← String.toList_append,
      String.ofList_toList, hquery]

/-- All cuts that highlighting makes in a query can be made. -/
theorem highlightSlices?_eq (query : String) :
    highlightSlices? query = some (highlightQuery query) := by
  rw [highlightSlices?, highlightQuery]
  cases hscan : Token.scan query with
  | error fault => rfl
  | ok tokens =>
    obtain ⟨pieces, last, rfl, h⟩ := Token.exists_laidOut_of_scan hscan
    have hslices := paintSlices?_of_laidOut "" h
    rw [String.empty_append] at hslices
    simp only [paintFrom_of_laidOut h]
    exact hslices

/-- Without its codes, a highlighted query without escape characters is the query, in color or not.
Whatever the query, all cuts that highlighting makes come in order, lie within it and divide no
character. -/
theorem highlighting_keeps_text (query : String) :
    ('\x1b' ∉ query.toList → strip (highlightQuery query) = query ∧
        ∀ color, strip (queryText color query) = query) ∧
      highlightSlices? query = some (highlightQuery query) := by
  refine ⟨fun hescape => ⟨strip_highlightQuery hescape, fun color => ?_⟩, highlightSlices?_eq query⟩
  cases color with
  | false => exact strip_of_no_escape hescape
  | true => exact strip_highlightQuery hescape

/-- A wide blank has three bytes and stands between two cuts. -/
example : highlightQuery "OR\u3000a" = "\x1b[1m\x1b[35mOR\x1b[0m\u3000\x1b[36ma\x1b[0m" := by
  decide +kernel

end FilterQuery.Style

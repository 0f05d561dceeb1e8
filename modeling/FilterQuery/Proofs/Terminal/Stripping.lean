import FilterQuery.Terminal.Style
import Mathlib.Tactic.SplitIfs

/-!
# Removing codes from styled texts

A code ends where its first letter stands, so a whole code is removed from inside an unfinished code
as it is from outside, and what follows it is outside in both cases. Hence a text in a style, with
or without codes of its own, loses no more and no less than the text alone. A source text in color
has its codes between its pieces and keeps all of these.
-/

namespace FilterQuery.Style

variable {codes chars : List Char} {text : String}

/-! ## Characters outside of codes -/

theorem stripFrom_append_of_no_escape (hescape : '\x1b' ∉ chars) (rest : List Char) :
    stripFrom false (chars ++ rest) = chars ++ stripFrom false rest := by
  induction chars with
  | nil => rfl
  | cons c others ih =>
    rw [List.mem_cons, not_or] at hescape
    rw [List.cons_append, stripFrom, if_neg Bool.false_ne_true, if_neg (Ne.symm hescape.1),
      ih hescape.2, List.cons_append]

theorem stripFrom_of_no_escape (hescape : '\x1b' ∉ chars) : stripFrom false chars = chars := by
  have hchars := stripFrom_append_of_no_escape hescape []
  rwa [List.append_nil, stripFrom, List.append_nil] at hchars

theorem escape_not_mem_stripFrom (inCode : Bool) (chars : List Char) :
    '\x1b' ∉ stripFrom inCode chars := by
  induction chars generalizing inCode with
  | nil => exact List.not_mem_nil
  | cons c rest ih =>
    rw [stripFrom]
    split_ifs with hcode hescape
    · exact ih _
    · exact ih true
    · rw [List.mem_cons, not_or]
      exact ⟨Ne.symm hescape, ih false⟩

theorem strip_of_no_escape (hescape : '\x1b' ∉ text.toList) : strip text = text := by
  rw [strip, stripFrom_of_no_escape hescape, String.ofList_toList]

theorem escape_not_mem_strip (text : String) : '\x1b' ∉ (strip text).toList := by
  rw [strip, String.toList_ofList]
  exact escape_not_mem_stripFrom false text.toList

/-! ## Codes -/

/-- Whole codes: wherever they begin, they are removed, and what follows them is outside. -/
def Vanishes (codes : List Char) : Prop :=
  ∀ inCode rest, stripFrom inCode (codes ++ rest) = stripFrom false rest

theorem stripFrom_no_letters (hchars : ∀ c ∈ chars, c.isAlpha = false) (rest : List Char) :
    stripFrom true (chars ++ rest) = stripFrom true rest := by
  induction chars with
  | nil => rfl
  | cons c others ih =>
    obtain ⟨hc, hothers⟩ := List.forall_mem_cons.1 hchars
    rw [List.cons_append, stripFrom, if_pos rfl, hc]
    exact ih hothers

theorem vanishes_code {parameters : String}
    (hparameters : parameters.toList.any Char.isAlpha = false) :
    Vanishes (code parameters).toList := by
  intro inCode rest
  have hchars : (code parameters).toList ++ rest =
      '\x1b' :: (('[' :: parameters.toList) ++ 'm' :: rest) := by
    simp [code]
  have hinside : ∀ c ∈ '[' :: parameters.toList, c.isAlpha = false :=
    List.forall_mem_cons.2 ⟨rfl, by simpa using hparameters⟩
  -- An escape character begins a code outside of codes, and inside one it ends none.
  have hstart : stripFrom inCode ('\x1b' :: (('[' :: parameters.toList) ++ 'm' :: rest)) =
      stripFrom true (('[' :: parameters.toList) ++ 'm' :: rest) := by
    cases inCode <;> rfl
  rw [hchars, hstart, stripFrom_no_letters hinside]
  rfl

theorem Vanishes.append {first second : String} (hfirst : Vanishes first.toList)
    (hsecond : Vanishes second.toList) : Vanishes (first ++ second).toList := by
  intro inCode rest
  rw [String.toList_append, List.append_assoc, hfirst, hsecond]

theorem vanishes_reset : Vanishes reset.toList :=
  vanishes_code (by decide)

theorem vanishes_bold : Vanishes bold.toList :=
  vanishes_code (by decide)

/-- Codes are removed from every text, and so is an unfinished code in front of them. -/
theorem stripFrom_append_codes (hcodes : Vanishes codes) (inCode : Bool)
    (before rest : List Char) :
    stripFrom inCode (before ++ (codes ++ rest)) =
      stripFrom inCode before ++ stripFrom false rest := by
  -- The text may end inside a code, so that the induction is over both states.
  induction before generalizing inCode with
  | nil => exact hcodes inCode rest
  | cons c before ih =>
    rw [List.cons_append, stripFrom, stripFrom]
    split_ifs with hcode hescape
    · exact ih _
    · exact ih true
    · rw [ih false, List.cons_append]

/-- Of a painted text between others, what the text alone has outside of codes is left. -/
theorem stripFrom_append_paint {painting : String} (hpainting : Vanishes painting.toList)
    (inCode : Bool) (before : List Char) (text : String) (rest : List Char) :
    stripFrom inCode (before ++ ((paint painting text).toList ++ rest)) =
      stripFrom inCode before ++ (stripFrom false text.toList ++ stripFrom false rest) := by
  have hchars : (paint painting text).toList ++ rest =
      painting.toList ++ (text.toList ++ (reset.toList ++ rest)) := by
    simp [paint]
  rw [hchars, stripFrom_append_codes hpainting, stripFrom_append_codes vanishes_reset]

/-! ## Source texts -/

theorem vanishes_color (color : Color) : Vanishes color.code.toList := by
  have hnumerals : ∀ n < 256, (toString n).toList.any Char.isAlpha = false := by decide +kernel
  have hpart (part : UInt8) := hnumerals part.toNat part.toNat_lt
  apply vanishes_code
  simp only [String.toList_append, List.any_append, hpart, Bool.or_false]
  decide

theorem stripFrom_append_pieces {pieces : List (Color × String)}
    (hescape : ∀ piece ∈ pieces, '\x1b' ∉ piece.2.toList) (rest : List Char) :
    stripFrom false
        ((String.join (pieces.map fun piece => piece.1.code ++ piece.2)).toList ++ rest) =
      (String.join (pieces.map Prod.snd)).toList ++ stripFrom false rest := by
  induction pieces with
  | nil => rfl
  | cons piece pieces ih =>
    obtain ⟨hpiece, hpieces⟩ := List.forall_mem_cons.1 hescape
    simp only [List.map_cons, String.join_cons, String.toList_append, List.append_assoc]
    rw [vanishes_color, stripFrom_append_of_no_escape hpiece, ih hpieces]

/-- Of a source text in color the text is left, and what follows it is outside of codes. -/
theorem strip_paint_append (highlighter : Highlighter) (language : SourceLanguage)
    (hescape : '\x1b' ∉ text.toList) (rest : String) :
    strip (highlighter.paint language text ++ rest) = text ++ strip rest := by
  have hjoin := highlighter.join_pieces language text
  have hpieces : ∀ piece ∈ highlighter.pieces language text, '\x1b' ∉ piece.2.toList := by
    intro piece hpiece hmem
    rw [← hjoin, String.toList_join] at hescape
    exact hescape (List.mem_flatMap.2 ⟨piece.2, List.mem_map_of_mem hpiece, hmem⟩)
  rw [strip, Highlighter.paint, String.toList_append, String.toList_append, List.append_assoc,
    stripFrom_append_pieces hpieces, hjoin, vanishes_reset, String.ofList_append,
    String.ofList_toList]
  rfl

/-- A code in the text itself ends where the text's next line is colored. -/
example : strip (source "a\x1b\nb") = "ab" ∧ strip "a\x1b\nb" = "a" := by
  decide +kernel

/-! ## Styles -/

/-- The styles of whole texts. -/
def textStyles : List (String → String) :=
  [header, subheader, dim, success, warning, error]

theorem exists_paint_of_mem {style : String → String} (hstyle : style ∈ textStyles) :
    ∃ painting : String, Vanishes painting.toList ∧ style = paint painting := by
  simp only [textStyles, List.mem_cons, List.not_mem_nil, or_false] at hstyle
  rcases hstyle with rfl | rfl | rfl | rfl | rfl | rfl
  · exact ⟨bold ++ cyan, .append vanishes_bold (vanishes_code (by decide)), rfl⟩
  · exact ⟨bold, vanishes_bold, rfl⟩
  · exact ⟨faint, vanishes_code (by decide), rfl⟩
  · exact ⟨green, vanishes_code (by decide), rfl⟩
  · exact ⟨yellow, vanishes_code (by decide), rfl⟩
  · exact ⟨red, vanishes_code (by decide), rfl⟩

theorem strip_of_mem {style : String → String} (hstyle : style ∈ textStyles) (text : String) :
    strip (style text) = strip text := by
  obtain ⟨painting, hpainting, rfl⟩ := exists_paint_of_mem hstyle
  have hstripped := stripFrom_append_paint hpainting false [] text []
  rw [List.nil_append, List.append_nil, stripFrom, List.nil_append, List.append_nil] at hstripped
  rw [strip, hstripped, strip]

/-- A style changes nothing but codes, whatever codes the text has itself and whether they are
finished. No removal of codes leaves an escape character, so a second one changes nothing. -/
theorem strip_styled {style : String → String} (hstyle : style ∈ textStyles) (color : Bool)
    (text : String) :
    strip (styled color style text) = strip text ∧ '\x1b' ∉ (strip text).toList ∧
      strip (strip text) = strip text := by
  refine ⟨?_, escape_not_mem_strip text, strip_of_no_escape (escape_not_mem_strip text)⟩
  cases color with
  | false => rfl
  | true => exact strip_of_mem hstyle text

/-- The reset ends the code that the text has begun. -/
theorem strip_styled_unfinished :
    let text := "a\x1b[1;\x1b[3"
    header ∈ textStyles ∧ strip text = "a" ∧
      strip (styled true header text) = strip text ∧ '\x1b' ∉ (strip text).toList ∧
        strip (strip text) = strip text := by
  intro text
  have hstyle : header ∈ textStyles := List.mem_cons_self
  exact ⟨hstyle, by decide +kernel, strip_styled hstyle true text⟩

end FilterQuery.Style

import FilterQuery.Proofs.Query.FaultPlace

/-!
# The caret below a query

A rendered diagnosis has one blank for each character in front of the fault, so that the caret
stands below the place of the fault as long as the query has a single line. In a query of several
lines the characters of all lines are counted together, and the caret never stands below its place.
-/

namespace FilterQuery

/-! ## Columns -/

/-- The characters in as many bytes as some of them have are just those. -/
theorem charsInBytes?_append (before after : List Char) :
    charsInBytes? (String.ofList before).utf8ByteSize (before ++ after) = some before.length := by
  induction before with
  | nil => simp [charsInBytes?]
  | cons c before ih =>
    obtain ⟨size, hsize⟩ : ∃ size, c.utf8Size = size + 1 :=
      Nat.exists_eq_add_one.2 c.utf8Size_pos
    have hbytes : (String.ofList (c :: before)).utf8ByteSize =
        (String.ofList before).utf8ByteSize + size + 1 := by
      simp [String.ofList_cons, hsize]
      omega
    rw [hbytes, List.cons_append, charsInBytes?, if_pos (by omega), hsize]
    have hrest : (String.ofList before).utf8ByteSize + size + 1 - (size + 1) =
        (String.ofList before).utf8ByteSize := by omega
    rw [hrest, ih]
    rfl

namespace Diagnosis

variable {fault : Fault} {before after : String}

theorem charsInBytes?_toList_append (before after : String) :
    charsInBytes? before.utf8ByteSize (before ++ after).toList = some before.length := by
  have hchars := charsInBytes?_append before.toList after.toList
  rwa [String.ofList_toList, ← String.toList_append, String.length_toList] at hchars

theorem min_utf8ByteSize_append (before after : String) :
    min before.utf8ByteSize (before ++ after).utf8ByteSize = before.utf8ByteSize := by
  rw [String.utf8ByteSize_append]
  omega

theorem column_append (before after : String) :
    column (before ++ after) before.utf8ByteSize = before.length := by
  rw [column, min_utf8ByteSize_append, charsInBytes?_toList_append]
  rfl

/-- The last line, if there is a hint. -/
def hintText (fault : Fault) : String :=
  fault.hint?.elim "" ("hint: " ++ ·)

/-- What is rendered in front of the place that a fault points at. -/
def upToPlace (fault : Fault) (before : String) : String :=
  headline fault ++ "  " ++ before

/-- What is rendered in front of the caret. -/
def upToCaret (fault : Fault) (before after : String) : String :=
  upToPlace fault before ++ after ++ "\n" ++
    ("  " ++ String.ofList (List.replicate before.length ' '))

theorem render_of_offset? (hoffset : fault.offset? = some before.utf8ByteSize) (after : String) :
    (⟨fault, some (before ++ after)⟩ : Diagnosis).render =
      upToCaret fault before after ++ "^\n" ++ hintText fault := by
  simp only [render, excerpt, hoffset, caretLine, column_append, upToCaret, upToPlace, hintText]
  cases fault.hint? <;> simp [String.append_assoc]

/-- A fault without a place has no caret. -/
theorem render_of_no_offset (hoffset : fault.offset? = none) (query : String) :
    (⟨fault, some query⟩ : Diagnosis).render =
      headline fault ++ "  " ++ query ++ "\n" ++ hintText fault := by
  simp only [render, excerpt, hoffset, hintText]
  cases fault.hint? <;> simp [String.append_assoc]

end Diagnosis

/-! ## Places -/

/-- A place in a text: the number of lines above it, and of characters before it in its line. -/
@[ext]
structure Place where
  row : Nat
  column : Nat
  deriving DecidableEq, Repr

namespace Place

/-- The place behind a text. A line ends at a line feed. -/
def behind (text : String) : Place where
  row := text.toList.count '\n'
  column := (text.toList.reverse.takeWhile (· != '\n')).length

/-- The place one line further down in the same column. -/
def below (place : Place) : Place :=
  { place with row := place.row + 1 }

variable {text more : String}

theorem row_behind_append (text more : String) :
    (behind (text ++ more)).row = (behind text).row + more.toList.count '\n' := by
  simp only [behind, String.toList_append, List.count_append]

theorem column_behind_append (text : String) (hmore : '\n' ∉ more.toList) :
    (behind (text ++ more)).column = (behind text).column + more.length := by
  have hpass : ∀ c ∈ more.toList.reverse, (c != '\n') = true := by
    intro c hc
    rw [List.mem_reverse] at hc
    simpa using fun heq : c = '\n' => hmore (heq ▸ hc)
  simp only [behind, String.toList_append, List.reverse_append]
  rw [List.takeWhile_append_of_pos hpass, List.length_append, List.length_reverse,
    String.length_toList, Nat.add_comm]

theorem column_behind_line (text : String) : (behind (text ++ "\n")).column = 0 := by
  simp [behind]

/-- Behind a line feed, only the characters after it count. -/
theorem column_behind_lt (text : String) (hmore : '\n' ∈ more.toList) :
    (behind (text ++ more)).column < more.length := by
  obtain ⟨front, back, hsplit⟩ := List.append_of_mem hmore
  have hreverse : (text ++ more).toList.reverse =
      back.reverse ++ '\n' :: (front.reverse ++ text.toList.reverse) := by
    simp [hsplit]
  have hcolumn : (behind (text ++ more)).column ≤ back.length := by
    simp only [behind, hreverse, List.takeWhile_append]
    split
    · simp
    · have hle := (List.takeWhile_sublist (· != '\n') (l := back.reverse)).length_le
      rwa [List.length_reverse] at hle
  have hlength : more.length = front.length + (back.length + 1) := by
    rw [← String.length_toList, hsplit, List.length_append, List.length_cons]
  omega

end Place

/-- The caret stands one line below the place of the fault, in the same column. -/
def CaretBelow (fault : Fault) (before after : String) : Prop :=
  Place.behind (Diagnosis.upToCaret fault before after) =
    (Place.behind (Diagnosis.upToPlace fault before)).below

instance (fault : Fault) (before after : String) : Decidable (CaretBelow fault before after) :=
  inferInstanceAs (Decidable (_ = _))

namespace Diagnosis

variable {fault : Fault} {before after : String}

/-- The blanks in front of a query and of a caret. -/
theorem length_indent : "  ".length = 2 :=
  rfl

theorem row_upToCaret (fault : Fault) (before after : String) :
    (Place.behind (upToCaret fault before after)).row =
      (Place.behind (upToPlace fault before)).row + after.toList.count '\n' + 1 := by
  have hblanks : ("  " ++ String.ofList (List.replicate before.length ' ')).toList.count '\n' =
      0 := by
    simp [List.count_eq_zero, List.mem_replicate]
  rw [upToCaret, Place.row_behind_append, hblanks, Place.row_behind_append,
    Place.row_behind_append]
  rfl

theorem column_upToCaret (fault : Fault) (before after : String) :
    (Place.behind (upToCaret fault before after)).column = 2 + before.length := by
  have hblanks : '\n' ∉ ("  " ++ String.ofList (List.replicate before.length ' ')).toList := by
    simp [List.mem_replicate]
  rw [upToCaret, Place.column_behind_append _ hblanks, Place.column_behind_line,
    String.length_append, length_indent, String.length_ofList, List.length_replicate, Nat.zero_add]

theorem column_indented (fault : Fault) : (Place.behind (headline fault ++ "  ")).column = 2 := by
  have hindent : '\n' ∉ "  ".toList := by decide
  rw [headline, Place.column_behind_append _ hindent, Place.column_behind_line, length_indent]

/-- The columns agree exactly if the characters in front of the fault stand in one line. -/
theorem column_upToPlace_eq_iff :
    (Place.behind (upToPlace fault before)).column = 2 + before.length ↔ '\n' ∉ before.toList := by
  constructor
  · intro hcolumn hmem
    have hlt := Place.column_behind_lt (headline fault ++ "  ") hmem
    rw [← upToPlace] at hlt
    omega
  · intro hmem
    rw [upToPlace, Place.column_behind_append _ hmem, column_indented]

theorem caretBelow_iff : CaretBelow fault before after ↔ '\n' ∉ (before ++ after).toList := by
  have hrow : (Place.behind (upToCaret fault before after)).row =
      (Place.behind (upToPlace fault before)).row + 1 ↔ '\n' ∉ after.toList := by
    rw [row_upToCaret, ← List.count_eq_zero]
    omega
  have hcolumn : (Place.behind (upToCaret fault before after)).column =
      (Place.behind (upToPlace fault before)).column ↔ '\n' ∉ before.toList := by
    rw [column_upToCaret, eq_comm, column_upToPlace_eq_iff]
  rw [CaretBelow, Place.ext_iff, String.toList_append, List.mem_append, not_or, and_comm]
  exact and_congr hcolumn hrow

end Diagnosis

open Diagnosis

variable {maxDepth : Nat} {query : String} {fault : Fault}

/-- In the text that is rendered for a query that cannot be read, the caret stands below the place
of the fault exactly if the query has a single line. -/
theorem caret_below_iff_single_line (hread : Disjunction.ofQuery maxDepth query = .error fault) :
    ∃ before after, query = before ++ after ∧ PointsAt maxDepth before after fault ∧
      (⟨fault, some query⟩ : Diagnosis).render =
        upToCaret fault before after ++ "^\n" ++ hintText fault ∧
      (CaretBelow fault before after ↔ '\n' ∉ query.toList) := by
  obtain ⟨before, after, rfl, hpoints⟩ := exists_pointsAt_of_ofQuery hread
  exact ⟨before, after, rfl, hpoints, render_of_offset? hpoints.offset?_eq after, caretBelow_iff⟩

/-- A blank of three bytes has one column. -/
theorem caret_below_iff_single_line_wide_blank :
    let query := "since:2021\u3000OR )"
    let fault : Fault := .unexpectedToken 16 "key or `(`" "`)`"
    Disjunction.ofQuery 64 query = .error fault ∧
      ∃ before after, query = before ++ after ∧ PointsAt 64 before after fault ∧
        (⟨fault, some query⟩ : Diagnosis).render =
          upToCaret fault before after ++ "^\n" ++ hintText fault ∧
        (CaretBelow fault before after ↔ '\n' ∉ query.toList) := by
  intro query fault
  have hread : Disjunction.ofQuery 64 query = .error fault := by decide +kernel
  exact ⟨hread, caret_below_iff_single_line hread⟩

/-- The parenthesis begins a line of its own; the caret stands below nothing, thirteen columns to
the right of it. -/
theorem caret_astray_on_second_line :
    let query := "since:2021\n)"
    let fault : Fault := .unexpectedToken 11 "`AND`, `OR` or end of input" "`)`"
    Disjunction.ofQuery 64 query = .error fault ∧
      (⟨fault, some query⟩ : Diagnosis).render =
        "query syntax error: expected `AND`, `OR` or end of input, found `)`\n" ++
          "  since:2021\n" ++ ")\n" ++ "             ^\n" ++
            "hint: Remove the unmatched closing parenthesis" ∧
      Place.behind (upToPlace fault "since:2021\n") = ⟨2, 0⟩ ∧
        Place.behind (upToCaret fault "since:2021\n" ")") = ⟨3, 13⟩ ∧
          ¬ CaretBelow fault "since:2021\n" ")" := by
  decide +kernel

end FilterQuery

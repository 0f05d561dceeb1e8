import FilterQuery.Text.Split

/-!
# Lines of a text

A line ends at a line feed, together with a carriage return directly before it. A final line feed
ends the last line and starts no further one. Lines without line feeds in them are determined by the
text they are written to.
-/

namespace FilterQuery.Text

/-- The lines of a character list, without their ends. -/
def splitLines : List Char → List (List Char)
  | [] => []
  | '\n' :: rest => [] :: splitLines rest
  | '\r' :: '\n' :: rest => [] :: splitLines rest
  | c :: rest =>
    match splitLines rest with
    | [] => [[c]]
    | line :: more => (c :: line) :: more

/-- The lines of a text, without their ends. -/
def lines (text : String) : List String :=
  (splitLines text.toList).map String.ofList

/-- The lines of a character list, each with the line feed that ends it. -/
def endedLines : List Char → List (List Char)
  | [] => []
  | c :: rest =>
    if c = '\n' then [c] :: endedLines rest
    else
      match endedLines rest with
      | [] => [[c]]
      | line :: more => (c :: line) :: more

theorem flatten_endedLines (chars : List Char) : (endedLines chars).flatten = chars := by
  induction chars with
  | nil => rfl
  | cons c rest ih =>
    rw [endedLines]
    split
    · rw [List.flatten_cons, ih, List.singleton_append]
    · cases hlines : endedLines rest <;> simp_all

theorem join_endedLines (text : String) :
    String.join ((endedLines text.toList).map String.ofList) = text := by
  have hchars : (endedLines text.toList).flatMap (String.toList ∘ String.ofList) = text.toList := by
    simpa [List.flatMap_def, Function.comp_def] using flatten_endedLines text.toList
  rw [← String.toList_inj, String.toList_join, List.flatMap_map]
  exact hchars

/-- Each line followed by a line feed. -/
def unlines (lines : List String) : String :=
  String.join (lines.map (· ++ "\n"))

/-- Two spaces for each level. -/
def indentation (level : Nat) : String :=
  String.ofList (List.replicate (2 * level) ' ')

/-- Every line that is not empty moved two columns to the right. -/
def indent (text : String) : String :=
  "\n".intercalate ((lines text).map fun line => if line.isEmpty then "" else "  " ++ line)

theorem toList_unlines (lines : List String) :
    (unlines lines).toList = (lines.map String.toList).flatMap (· ++ ['\n']) := by
  rw [unlines, String.toList_join, List.flatMap_map, List.flatMap_map]
  simp

theorem toList_unlines_cons (line : String) (lines : List String) :
    (unlines (line :: lines)).toList = line.toList ++ '\n' :: (unlines lines).toList := by
  simp [toList_unlines]

/-- The text has the lines it was written from. -/
theorem unlines_injective {left right : List String} (hleft : ∀ line ∈ left, '\n' ∉ line.toList)
    (hright : ∀ line ∈ right, '\n' ∉ line.toList) (heq : unlines left = unlines right) :
    left = right := by
  have hchars := congrArg String.toList heq
  clear heq
  induction left generalizing right with
  | nil =>
    cases right with
    | nil => rfl
    | cons other others =>
      rw [toList_unlines_cons] at hchars
      simp [unlines] at hchars
  | cons line lines ih =>
    cases right with
    | nil =>
      rw [toList_unlines_cons] at hchars
      simp [unlines] at hchars
    | cons other others =>
      rw [List.forall_mem_cons] at hleft hright
      rw [toList_unlines_cons, toList_unlines_cons] at hchars
      have hcut := append_cons_inj_of_not_mem_left hleft.1 hright.1 hchars
      rw [String.toList_inj.1 hcut.1, ih hleft.2 hright.2 hcut.2]

end FilterQuery.Text

import FilterQuery.Proofs.Compiler.NestingLimit
import FilterQuery.Proofs.Query.Caret

/-!
# What is shown of a query that does not compile

A fault of reading points into the query or at its end, never inside a character, and the caret
follows as many blanks as there are characters in front of it. What is wrong with a key or a value
has no place, and then there is no caret.
-/

namespace FilterQuery

open Diagnosis

/-- A fault of `query` points between `before` and `after`, and this is how it is shown. -/
structure ShownBetween (maxDepth : Nat) (query : String) (fault : Fault) (before after : String) :
    Prop where
  query_eq : query = before ++ after
  offset?_eq : fault.offset? = some before.utf8ByteSize
  pointsAt : PointsAt maxDepth before after fault
  /-- The offset is that of the end for what has found the end, and only then. -/
  offset_eq_end_iff : before.utf8ByteSize = query.utf8ByteSize ↔
    ∃ expected, fault = .unexpectedToken query.utf8ByteSize expected "end of input"
  /-- The offset is not past the end, so that it counts as it is. -/
  unclamped : min before.utf8ByteSize query.utf8ByteSize = before.utf8ByteSize
  /-- The offset is not inside a character, so that the characters in front of it can be counted. -/
  counted : charsInBytes? before.utf8ByteSize query.toList = some before.length
  render_eq : (⟨fault, some query⟩ : Diagnosis).render =
    headline fault ++ "  " ++ query ++ "\n" ++
      ("  " ++ String.ofList (List.replicate before.length ' ') ++ "^\n") ++ hintText fault

variable {maxDepth : Nat} {query before after : String} {fault : Fault}

theorem PointsAt.shownBetween (hpoints : PointsAt maxDepth before after fault) :
    ShownBetween maxDepth (before ++ after) fault before after where
  query_eq := rfl
  offset?_eq := hpoints.offset?_eq
  pointsAt := hpoints
  offset_eq_end_iff := by
    have hsize : before.utf8ByteSize = (before ++ after).utf8ByteSize ↔ after = "" := by
      rw [String.utf8ByteSize_append, ← String.utf8ByteSize_eq_zero_iff]
      omega
    constructor
    · intro hend
      rw [← hend]
      exact hpoints.after_eq_iff.1 (hsize.1 hend)
    · rintro ⟨expected, hfault⟩
      have hoffset := hpoints.offset?_eq
      rw [hfault] at hoffset
      exact (Option.some.inj hoffset).symm
  unclamped := min_utf8ByteSize_append before after
  counted := charsInBytes?_toList_append before after
  render_eq := by
    rw [render_of_offset? hpoints.offset?_eq after]
    simp only [upToCaret, upToPlace, String.append_assoc]

/-- The faults that point somewhere are those of reading. -/
theorem Fault.isSyntactic_eq (fault : Fault) : fault.isSyntactic = fault.offset?.isSome := by
  cases fault <;> rfl

namespace Compiler

variable {compiler : Compiler}

/-- Whatever keeps a query from being compiled is shown at its place in the query, or without a
caret if it is a key or a value. -/
theorem fault_shown (hcompile : compiler.compileQuery query = .error fault) :
    (∃ before after, ShownBetween compiler.maxDepth query fault before after) ∨
      fault.offset? = none ∧ fault.isSyntactic = false ∧
        (⟨fault, some query⟩ : Diagnosis).render =
          headline fault ++ "  " ++ query ++ "\n" ++ hintText fault := by
  rcases bind_eq_error_iff.1 hcompile with hread | ⟨tree, _, htree⟩
  · obtain ⟨before, after, rfl, hpoints⟩ := exists_pointsAt_of_ofQuery hread
    exact .inl ⟨before, after, hpoints.shownBetween⟩
  · have hoffset := KeyTable.offset?_of_compile htree
    have hsyntactic : fault.isSyntactic = false := by rw [Fault.isSyntactic_eq, hoffset]; rfl
    exact .inr ⟨hoffset, hsyntactic, render_of_no_offset hoffset query⟩

/-- Blanks of three bytes and a line feed in front of the fault. -/
theorem fault_shown_wide_blanks :
    let query := "(since:2021\u3000OR\u2028\n) AND"
    let fault : Fault := .unexpectedToken 20 "key or `(`" "`)`"
    (⟨.builtin, 64⟩ : Compiler).compileQuery query = .error fault ∧
      ((∃ before after, ShownBetween 64 query fault before after) ∨
        fault.offset? = none ∧ fault.isSyntactic = false ∧
          (⟨fault, some query⟩ : Diagnosis).render =
            headline fault ++ "  " ++ query ++ "\n" ++ hintText fault) := by
  intro query fault
  have hcompile : (⟨.builtin, 64⟩ : Compiler).compileQuery query = .error fault :=
    compileQuery_of_ofQuery_error (by decide +kernel)
  exact ⟨hcompile, fault_shown hcompile⟩

end Compiler

end FilterQuery

import FilterQuery.Proofs.Query.FaultPlace

/-!
# Where a query ends

Tokens alone end where the last of them does; the text they were scanned from may go on with blanks.
Whoever reads the tokens notices no difference unless all of them have been passed and one more is
missing: the fault then points to the end, and the ends differ exactly if the text ends in a blank.
-/

namespace FilterQuery

/-- The last character is blank. -/
def Text.EndsBlank (text : String) : Prop :=
  ∃ c ∈ text.toList.getLast?, isBlank c = true

namespace Token

variable {token : Token} {query text last : String} {tokens : List Token} {pieces : List Piece}

/-! ## Blanks at the end of a text -/

theorem getLast?_toList_append (front : String) (htext : text ≠ "") :
    (front ++ text).toList.getLast? = text.toList.getLast? := by
  have hchars : text.toList ≠ [] := fun hnil => htext (String.toList_eq_nil_iff.1 hnil)
  rw [String.toList_append, List.getLast?_append_of_ne_nil _ hchars]

theorem Spelled.not_endsBlank (hspelled : token.Spelled) (front : String) :
    ¬ Text.EndsBlank (front ++ token.text) := by
  rintro ⟨c, hlast, hblank⟩
  rw [getLast?_toList_append front hspelled.text_ne_empty] at hlast
  rw [hspelled.isBlank_eq_false (List.mem_of_getLast? hlast)] at hblank
  cases hblank

/-- A layout ends in a blank exactly if there is a gap at its end. -/
theorem LaidOut.endsBlank_iff {offset : Nat} (h : LaidOut offset text pieces last) :
    Text.EndsBlank text ↔ last ≠ "" := by
  rw [h.text_eq]
  constructor
  · rintro hblank rfl
    rw [String.append_empty] at hblank
    rcases List.eq_nil_or_concat' pieces with rfl | ⟨front, piece, rfl⟩
    · obtain ⟨c, hc, _⟩ := hblank
      cases hc
    · have hspelled := spelled_iff.2 (h.writtenAs piece (by simp))
      have hwritten : written (front ++ [piece]) =
          written front ++ piece.gap ++ piece.token.text := by
        simp [written, Piece.text, String.append_assoc]
      rw [hwritten] at hblank
      exact hspelled.not_endsBlank _ hblank
  · intro hlast
    obtain ⟨c, hc⟩ : ∃ c, last.toList.getLast? = some c := by
      cases hchars : last.toList.getLast? with
      | none => exact absurd (String.toList_eq_nil_iff.1 (List.getLast?_eq_none_iff.1 hchars)) hlast
      | some c => exact ⟨c, rfl⟩
    have hblank := List.all_eq_true.1 h.blank_last c (List.mem_of_getLast? hc)
    exact ⟨c, (getLast?_toList_append _ hlast).trans hc, hblank⟩

/-- The last token ends where the gap at the end of a layout begins. -/
theorem LaidOut.stopOf_eq (h : LaidOut 0 text pieces last) :
    stopOf (pieces.map (·.token)) = (written pieces).utf8ByteSize := by
  rcases List.eq_nil_or_concat' pieces with rfl | ⟨front, piece, rfl⟩
  · rfl
  · have hoffset := h.offset_eq front piece [] rfl
    have hlast : ((front ++ [piece]).map (·.token)).getLast? = some piece.token := by simp
    rw [stopOf, hlast]
    simp only [stop, hoffset, written, List.map_append, List.map_singleton, String.join_append]
    simp [Piece.text]
    omega

/-- The last token ends where the query does, unless the query ends in a blank. -/
theorem stopOf_eq_iff (hscan : scan query = .ok tokens) :
    stopOf tokens = query.utf8ByteSize ↔ ¬ Text.EndsBlank query := by
  obtain ⟨pieces, last, rfl, hlaid⟩ := exists_laidOut_of_scan hscan
  have hsize : query.utf8ByteSize = (written pieces).utf8ByteSize + last.utf8ByteSize := by
    rw [hlaid.text_eq, String.utf8ByteSize_append]
  rw [hlaid.endsBlank_iff, hlaid.stopOf_eq, not_not, ← String.utf8ByteSize_eq_zero_iff]
  omega

end Token

/-! ## Faults at the end -/

/-- A reading may end with the same tree everywhere, or expects something else everywhere. -/
theorem Reading.finish_cases (reading : Reading) :
    (∃ tree, ∀ stop, reading.finish stop = .ok tree) ∨
      ∀ stop, reading.finish stop =
        .error (.unexpectedToken stop reading.expectation "end of input") := by
  obtain ⟨groups, level, awaited⟩ := reading
  cases awaited with
  | continuation last =>
    cases groups with
    | nil => exact .inl ⟨level.disjunction last, fun stop => rfl⟩
    | cons group groups => exact .inr fun stop => rfl
  | term | colon key | value key => exact .inr fun stop => rfl

namespace Disjunction

variable {query : String} {tokens : List Token}

/-- Where the query ends is told by no outcome but the fault that has found the end. -/
theorem ofTokensEndingAt_cases (maxDepth : Nat) (tokens : List Token) :
    (∃ tree, ∀ stop, ofTokensEndingAt maxDepth stop tokens = .ok tree) ∨
      (∃ fault, (∀ stop, ofTokensEndingAt maxDepth stop tokens = .error fault) ∧
        ∀ offset expected, fault ≠ .unexpectedToken offset expected "end of input") ∨
      ∃ expected, ∀ stop, ofTokensEndingAt maxDepth stop tokens =
        .error (.unexpectedToken stop expected "end of input") := by
  cases hrun : Reading.run (nestingLimit maxDepth) {} tokens with
  | error fault =>
    refine .inr (.inl ⟨fault, ofTokensEndingAt_of_fault hrun, fun offset expected hend => ?_⟩)
    obtain ⟨before, token, after, reading, _, _, hstep⟩ := Reading.run_eq_error_iff.1 hrun
    rcases Reading.step_eq_error hstep with ⟨hdeep, _⟩ | ⟨hrefused, _⟩
    · rw [hdeep] at hend
      cases hend
    · rw [hrefused] at hend
      injection hend with _ _ hfound
      exact Token.describe_ne_end token hfound
  | ok reading =>
    simp only [ofTokensEndingAt_of_run hrun]
    rcases reading.finish_cases with htree | hend
    · exact .inl htree
    · exact .inr (.inr ⟨reading.expectation, hend⟩)

/-- A query and its tokens are read as the same tree or have the same fault, except that the end of
the query may lie behind that of its last token. It does exactly if the query ends in a blank. -/
theorem ofQuery_agrees_ofTokens (hscan : Token.scan query = .ok tokens) (maxDepth : Nat) :
    ((∃ tree, ofQuery maxDepth query = .ok tree ∧ ofTokens maxDepth tokens = .ok tree) ∨
      (∃ fault, ofQuery maxDepth query = .error fault ∧ ofTokens maxDepth tokens = .error fault ∧
        ∀ offset expected, fault ≠ .unexpectedToken offset expected "end of input") ∨
      ∃ expected,
        ofQuery maxDepth query =
            .error (.unexpectedToken query.utf8ByteSize expected "end of input") ∧
          ofTokens maxDepth tokens =
            .error (.unexpectedToken (Token.stopOf tokens) expected "end of input")) ∧
      (Token.stopOf tokens ≠ query.utf8ByteSize ↔ Text.EndsBlank query) := by
  refine ⟨?_, by rw [Ne, Token.stopOf_eq_iff hscan, not_not]⟩
  rw [ofQuery_of_scan hscan, ofTokens]
  rcases ofTokensEndingAt_cases maxDepth tokens with
    ⟨tree, htree⟩ | ⟨fault, hfault, hinside⟩ | ⟨expected, hend⟩
  · exact .inl ⟨tree, htree _, htree _⟩
  · exact .inr (.inl ⟨fault, hfault _, hfault _, hinside⟩)
  · exact .inr (.inr ⟨expected, hend _, hend _⟩)

/-- A wide blank and a line feed behind a connective. -/
theorem ofQuery_agrees_ofTokens_open_end :
    let query := "since:2021 OR\u3000\n"
    let tokens : List Token := [⟨.key, "since", 0⟩, ⟨.punctuation .colon, ":", 5⟩,
      ⟨.value, "2021", 6⟩, ⟨.connective .or, "OR", 11⟩]
    Token.scan query = .ok tokens ∧
      ((∃ tree, ofQuery 64 query = .ok tree ∧ ofTokens 64 tokens = .ok tree) ∨
        (∃ fault, ofQuery 64 query = .error fault ∧ ofTokens 64 tokens = .error fault ∧
          ∀ offset expected, fault ≠ .unexpectedToken offset expected "end of input") ∨
        ∃ expected,
          ofQuery 64 query =
              .error (.unexpectedToken query.utf8ByteSize expected "end of input") ∧
            ofTokens 64 tokens =
              .error (.unexpectedToken (Token.stopOf tokens) expected "end of input")) ∧
      (Token.stopOf tokens ≠ query.utf8ByteSize ↔ Text.EndsBlank query) := by
  intro query tokens
  have hscan : Token.scan query = .ok tokens := by decide +kernel
  exact ⟨hscan, ofQuery_agrees_ofTokens hscan 64⟩

end Disjunction

end FilterQuery

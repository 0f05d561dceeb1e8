import FilterQuery.Proofs.Compiler.Leaves
import FilterQuery.Proofs.Key.Summaries
import FilterQuery.Proofs.Query.Listing

/-!
# Listings of compiled queries

The field of a filter is any text, so it may have spaces, signs and parentheses in it that look like
the rest of the filter. Since values and signs have no spaces, a filter is read from its end: the
value stands behind the last space, the sign behind the one before it. With that a compiled query is
told by its listing, as a tree is.
-/

namespace FilterQuery

open Text (Outline IsLabel)

/-! ## Filters -/

namespace Rule

variable {rule other : Rule} {value word : String}

theorem not_mem_mark (rule : Rule) {c : Char} (hc : c ∉ ['<', '=', '>']) :
    c ∉ rule.mark.toList := by
  simp only [List.mem_cons, List.not_mem_nil, or_false, not_or] at hc
  cases rule with
  | range field side inclusive format =>
    cases side <;> cases inclusive <;> simp [mark, sign, hc]
  | term field format => simp [mark, hc]

theorem sign_injective {side otherSide : BoundSide} {inclusive otherInclusive : Bool}
    (hsign : sign side inclusive = sign otherSide otherInclusive) :
    side = otherSide ∧ inclusive = otherInclusive := by
  cases side <;> cases inclusive <;> cases otherSide <;> cases otherInclusive <;>
    first | exact ⟨rfl, rfl⟩ | simp [sign] at hsign

theorem sign_ne_equals (side : BoundSide) (inclusive : Bool) : sign side inclusive ≠ "=" := by
  cases side <;> cases inclusive <;> decide

/-- The mark tells the kind of a rule and what end of a range it sets. -/
theorem filter_eq_of_mark_eq (hfield : rule.field = other.field) (hmark : rule.mark = other.mark)
    (value : String) : rule.filter value = other.filter value := by
  cases rule with
  | range field side inclusive format =>
    cases other with
    | range otherField otherSide otherInclusive otherFormat =>
      cases hfield
      obtain ⟨rfl, rfl⟩ := sign_injective hmark
      cases side <;> rfl
    | term otherField otherFormat => exact absurd hmark (sign_ne_equals side inclusive)
  | term field format =>
    cases other with
    | range otherField otherSide otherInclusive otherFormat =>
      exact absurd hmark.symm (sign_ne_equals otherSide otherInclusive)
    | term otherField otherFormat =>
      cases hfield
      rfl

/-- Whatever stands in the field, the last two spaces of a filter are those around its sign. -/
theorem filter_eq_of_display_eq (hvalue : ' ' ∉ value.toList) (hword : ' ' ∉ word.toList)
    (heq : (rule.filter value).display = (other.filter word).display) :
    rule.filter value = other.filter word := by
  have hchars : (rule.field.toList ++ ' ' :: rule.mark.toList) ++ ' ' :: value.toList =
      (other.field.toList ++ ' ' :: other.mark.toList) ++ ' ' :: word.toList := by
    simpa [display_filter, phrase] using congrArg String.toList heq
  obtain ⟨hphrase, hvalues⟩ := Text.append_cons_inj_of_not_mem_right hvalue hword hchars
  obtain ⟨hfield, hmark⟩ := Text.append_cons_inj_of_not_mem_right
    (rule.not_mem_mark (by decide)) (other.not_mem_mark (by decide)) hphrase
  rw [← String.toList_inj.1 hvalues]
  exact filter_eq_of_mark_eq (String.toList_inj.1 hfield) (String.toList_inj.1 hmark) value

end Rule

namespace Filter

/-- What the line of a filter shows. -/
def label (filter : Filter) : String :=
  "Filter(" ++ filter.display ++ ")"

/-- A filter for a value that a query can hold, on a field that keeps to its line. -/
inductive OnOneLine : Filter → Prop
  | intro {rule : Rule} {value : String} (hfield : '\n' ∉ rule.field.toList)
      (hvalue : isValueShaped value = true) : OnOneLine (rule.filter value)

theorem OnOneLine.isLabel {filter : Filter} (hfilter : filter.OnOneLine) :
    IsLabel filter.label where
  on_one_line := by
    obtain @⟨rule, value, hfield, hvalue⟩ := hfilter
    have hmark : '\n' ∉ rule.mark.toList := rule.not_mem_mark (by decide)
    have hword : '\n' ∉ value.toList := not_mem_of_isValueShaped hvalue (by decide)
    simp [label, Rule.display_filter, Rule.phrase, hfield, hmark, hword]
  not_indented := by
    simp [label]

theorem label_injOn : Set.InjOn label {filter | filter.OnOneLine} := by
  intro filter hfilter other hother hlabel
  obtain ⟨-, hvalue⟩ := hfilter
  obtain ⟨-, hword⟩ := hother
  have hdisplay := by simpa [label] using hlabel
  exact Rule.filter_eq_of_display_eq (not_mem_of_isValueShaped hvalue (by decide))
    (not_mem_of_isValueShaped hword (by decide)) hdisplay

end Filter

/-! ## Compiled queries as outlines -/

namespace Clause

/-- What the line of a node shows that asks for a number of its clauses. -/
def anyLabel (minimum : Nat) : String :=
  "ShouldAny(min " ++ toString minimum ++ ")"

-- Cited in place of the definition, whose own equation takes Lean seconds to derive.
theorem anyLabel_eq (minimum : Nat) :
    anyLabel minimum = "ShouldAny(min " ++ toString minimum ++ ")" :=
  rfl

mutual

/-- A clause as an outline, with another one next to it. -/
def outline (next : Outline) : Clause → Outline
  | .filter predicate => .node predicate.label .nil next
  | .all clauses => .node "MustAll" (outlines clauses) next
  | .any minimum clauses => .node (anyLabel minimum) (outlines clauses) next

def outlines : List Clause → Outline
  | [] => .nil
  | clause :: rest => clause.outline (outlines rest)

end

mutual

theorem lines_outline (clause : Clause) (next : Outline) (level : Nat) :
    (clause.outline next).lines level = clause.listingLines level ++ next.lines level := by
  match clause with
  | .filter predicate =>
    simp [outline, Outline.lines, listingLines, Filter.label, String.append_assoc]
  | .all clauses => simp [outline, Outline.lines, listingLines, lines_outlines clauses]
  | .any minimum clauses =>
    simp [outline, Outline.lines, listingLines, lines_outlines clauses, anyLabel_eq,
      String.append_assoc]

theorem lines_outlines (clauses : List Clause) (level : Nat) :
    (outlines clauses).lines level = clauseLines level clauses := by
  match clauses with
  | [] => rfl
  | clause :: rest =>
    rw [outlines, lines_outline clause, lines_outlines rest, clauseLines]

end

theorem listing_eq_unlines (clause : Clause) :
    clause.listing = Text.unlines (Outline.lines 0 (clause.outline .nil)) := by
  rw [lines_outline, Outline.lines, List.append_nil, listing]

/-! ## Labels of compiled queries -/

theorem anyLabel_injective : Function.Injective anyLabel := by
  intro minimum other hlabel
  have hdigits : Nat.toDigits 10 minimum = Nat.toDigits 10 other := by
    simpa [anyLabel_eq] using congrArg String.toList hlabel
  calc
    minimum = Nat.ofDigitChars 10 (Nat.toDigits 10 minimum) 0 := Nat.ofDigitChars_ten_toDigits.symm
    _ = Nat.ofDigitChars 10 (Nat.toDigits 10 other) 0 := by rw [hdigits]
    _ = other := Nat.ofDigitChars_ten_toDigits

theorem isLabel_anyLabel (minimum : Nat) : IsLabel (anyLabel minimum) where
  on_one_line := by
    have hdigits : '\n' ∉ Nat.toDigits 10 minimum := by
      intro hmem
      have hdigit := Nat.isDigit_of_mem_toDigits (by decide) (by decide) hmem
      revert hdigit
      decide
    simp [anyLabel_eq, hdigits]
  not_indented := by
    simp [anyLabel_eq]

mutual

theorem labelled_outline {clause : Clause} (hfilters : ∀ filter ∈ clause.filters, filter.OnOneLine)
    {next : Outline} (hnext : next.Labelled) : (clause.outline next).Labelled := by
  match clause with
  | .filter predicate => exact .node (hfilters _ List.mem_cons_self).isLabel .nil hnext
  | .all clauses => exact .node (by decide) (labelled_outlines hfilters) hnext
  | .any minimum clauses =>
    exact .node (isLabel_anyLabel minimum) (labelled_outlines hfilters) hnext

theorem labelled_outlines {clauses : List Clause}
    (hfilters : ∀ filter ∈ filtersOf clauses, filter.OnOneLine) : (outlines clauses).Labelled := by
  match clauses with
  | [] => exact .nil
  | clause :: rest =>
    rw [filtersOf, List.forall_mem_append] at hfilters
    exact labelled_outline hfilters.1 (labelled_outlines hfilters.2)

end

/-! ## Outlines tell compiled queries -/

theorem outline_ne_nil (clause : Clause) (next : Outline) : clause.outline next ≠ .nil := by
  cases clause <;> simp [outline]

mutual

theorem outline_injective {clause other : Clause} {next otherNext : Outline}
    (hfilters : ∀ filter ∈ clause.filters, filter.OnOneLine)
    (hothers : ∀ filter ∈ other.filters, filter.OnOneLine)
    (heq : clause.outline next = other.outline otherNext) : clause = other ∧ next = otherNext := by
  match clause, other with
  | .filter predicate, .filter otherPredicate =>
    injection heq with hlabel _ hnext
    have hpredicate := Filter.label_injOn (hfilters _ List.mem_cons_self)
      (hothers _ List.mem_cons_self) hlabel
    exact ⟨by rw [hpredicate], hnext⟩
  | .all clauses, .all otherClauses =>
    injection heq with _ hbelow hnext
    exact ⟨by rw [outlines_injective hfilters hothers hbelow], hnext⟩
  | .any minimum clauses, .any otherMinimum otherClauses =>
    injection heq with hlabel hbelow hnext
    exact ⟨by rw [anyLabel_injective hlabel, outlines_injective hfilters hothers hbelow], hnext⟩
  -- the first characters of the labels differ
  | .filter _, .all _ | .filter _, .any _ _ | .all _, .filter _ | .all _, .any _ _
  | .any _ _, .filter _ | .any _ _, .all _ =>
    injection heq with hlabel
    simpa [Filter.label, anyLabel_eq] using congrArg String.toList hlabel

theorem outlines_injective {clauses others : List Clause}
    (hfilters : ∀ filter ∈ filtersOf clauses, filter.OnOneLine)
    (hothers : ∀ filter ∈ filtersOf others, filter.OnOneLine)
    (heq : outlines clauses = outlines others) : clauses = others := by
  match clauses, others with
  | [], [] => rfl
  | clause :: rest, other :: otherRest =>
    rw [filtersOf, List.forall_mem_append] at hfilters hothers
    obtain ⟨rfl, hrest⟩ := outline_injective hfilters.1 hothers.1 heq
    rw [outlines_injective hfilters.2 hothers.2 hrest]
  | [], other :: otherRest => exact absurd heq.symm (other.outline_ne_nil _)
  | clause :: rest, [] => exact absurd heq (clause.outline_ne_nil _)

end

theorem listing_injOn :
    Set.InjOn listing {clause | ∀ filter ∈ clause.filters, filter.OnOneLine} := by
  intro clause hfilters other hothers hlisting
  rw [listing_eq_unlines, listing_eq_unlines] at hlisting
  have houtline := Text.Outline.unlines_lines_injOn (labelled_outline hfilters .nil)
    (labelled_outline hothers .nil) hlisting
  exact (outline_injective hfilters hothers houtline).1

end Clause

/-! ## Queries and tables -/

/-- No rule of the table has a field that goes over several lines. -/
def KeyTable.FieldsOnOneLine (table : KeyTable) : Prop :=
  ∀ entry ∈ table.entries, '\n' ∉ entry.2.rule.field.toList

instance (table : KeyTable) : Decidable table.FieldsOnOneLine :=
  inferInstanceAs (Decidable (∀ entry ∈ table.entries, _))

theorem KeyTable.FieldsOnOneLine.not_mem_field {table : KeyTable} {name : String} {rule : Rule}
    (hfields : table.FieldsOnOneLine) (hrule : table.rule? name = some rule) :
    '\n' ∉ rule.field.toList := by
  obtain ⟨entry, hentry, rfl⟩ := Option.map_eq_some_iff.1 hrule
  exact hfields (name, entry) (NameMap.get?_eq_some_iff.1 hentry)

namespace Compiler

variable {compiler : Compiler} {query : String} {clause : Clause}

theorem onOneLine_of_compileQuery (hfields : compiler.keys.FieldsOnOneLine)
    (hquery : compiler.compileQuery query = .ok clause) :
    ∀ filter ∈ clause.filters, filter.OnOneLine := by
  intro filter hfilter
  obtain ⟨tree, hread, hcompile⟩ := bind_eq_ok_iff.1 hquery
  have hmem : (.ok filter : Except Fault Filter) ∈ clause.filters.map .ok :=
    List.mem_map_of_mem hfilter
  rw [← KeyTable.map_compileLeaf_of_compile hcompile] at hmem
  obtain ⟨leaf, hleaf, hleafFilter⟩ := List.mem_map.1 hmem
  obtain ⟨rule, hrule, _, rfl⟩ := KeyTable.compileLeaf_eq_ok_iff.1 hleafFilter
  exact .intro (hfields.not_mem_field hrule) (Disjunction.leafShaped_of_ofQuery hread leaf hleaf).2

end Compiler

/-- The listing of a tree that is read from a query tells the tree, whatever nesting limit it was
read with. The listing of a compiled query tells the compiled query, whatever table it was compiled
against, as long as the fields keep to their lines. -/
theorem listings_unambiguous :
    Set.InjOn Disjunction.listing
        {tree | ∃ maxDepth query, Disjunction.ofQuery maxDepth query = .ok tree} ∧
      Set.InjOn Clause.listing
        {clause | ∃ compiler : Compiler, compiler.keys.FieldsOnOneLine ∧
          ∃ query, compiler.compileQuery query = .ok clause} := by
  constructor
  · refine Disjunction.listing_injOn.mono ?_
    rintro tree ⟨maxDepth, query, hread⟩
    exact Disjunction.leafShaped_of_ofQuery hread
  · refine Clause.listing_injOn.mono ?_
    rintro clause ⟨compiler, hfields, query, hquery⟩
    exact Compiler.onOneLine_of_compileQuery hfields hquery

/-- Terms on a field that ends like a comparison, and comparisons with a field of almost that
name. -/
theorem listings_unambiguous_lookalikes :
    let terms : Compiler := { keys := .ofList [("stars", ⟨.term "(a >" .keyword, .custom⟩)] }
    let ranges : Compiler :=
      { keys := .ofList [("stars", ⟨.range "(a" .lower true .integer, .custom⟩)] }
    ∃ left right, terms.compileQuery "stars:5" = .ok left ∧
      ranges.compileQuery "stars:5" = .ok right ∧ left.listing ≠ right.listing := by
  intro terms ranges
  have hread : Disjunction.ofQuery 64 "stars:5" = .ok (.one (.one (.leaf "stars" "5"))) := by
    decide +kernel
  have hleft : terms.compileQuery "stars:5" = .ok (.filter (.term "(a >" "5")) :=
    bind_eq_ok_iff.2 ⟨_, hread, rfl⟩
  have hright :
      ranges.compileQuery "stars:5" = .ok (.filter (.range "(a" (some ⟨"5", true⟩) none)) :=
    bind_eq_ok_iff.2 ⟨_, hread, rfl⟩
  refine ⟨_, _, hleft, hright, fun hlisting => ?_⟩
  have hsame := listings_unambiguous.2 ⟨terms, by decide, _, hleft⟩ ⟨ranges, by decide, _, hright⟩
    hlisting
  cases hsame

end FilterQuery

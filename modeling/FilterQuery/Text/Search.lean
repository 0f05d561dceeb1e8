/-!
# Search in a text
-/

namespace FilterQuery.Text

/-- Whether `pattern` occurs in a character list. -/
def occursIn (pattern : List Char) : List Char → Bool
  | [] => pattern.isEmpty
  | c :: rest => pattern.isPrefixOf (c :: rest) || occursIn pattern rest

/-- Whether `pattern` occurs in a text. -/
def contains (text pattern : String) : Bool :=
  occursIn pattern.toList text.toList

theorem subset_of_occursIn {pattern text : List Char} (hoccurs : occursIn pattern text = true) :
    pattern ⊆ text := by
  induction text with
  | nil =>
    rw [occursIn, List.isEmpty_iff] at hoccurs
    rw [hoccurs]
    exact List.nil_subset []
  | cons c rest ih =>
    rw [occursIn, Bool.or_eq_true] at hoccurs
    rcases hoccurs with hfirst | hrest
    · exact (List.isPrefixOf_iff_prefix.1 hfirst).subset
    · exact List.subset_cons_of_subset c (ih hrest)

/-- A text has all characters of what occurs in it. -/
theorem mem_of_contains {text pattern : String} (hcontains : contains text pattern = true)
    {c : Char} (hc : c ∈ pattern.toList) : c ∈ text.toList :=
  subset_of_occursIn hcontains hc

end FilterQuery.Text

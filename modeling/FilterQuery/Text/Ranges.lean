/-!
# Ranges of code points

Unicode properties are kept as ascending lists of inclusive code point ranges.
-/

namespace FilterQuery.Text

/-- Whether the code point of `c` lies in one of the inclusive ranges. -/
def inRanges (ranges : List (Nat × Nat)) (c : Char) : Bool :=
  ranges.any fun range => range.1 ≤ c.toNat && c.toNat ≤ range.2

end FilterQuery.Text

/-!
# Ranges of characters

Properties of characters are given as lists of ranges of codes, each with its first and its last
code.
-/

namespace CloudAdmin.Text

/-- Whether a character is in one of some ranges. -/
def inRanges (ranges : List (Nat × Nat)) (c : Char) : Bool :=
  ranges.any fun range => range.1 ≤ c.toNat && c.toNat ≤ range.2

end CloudAdmin.Text

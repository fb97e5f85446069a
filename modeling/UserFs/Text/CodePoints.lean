/-!
# Sets of code points

A property of characters is stored as the list of the maximal ranges of code points that
have it, both ends included, in increasing order.
-/

namespace UserFs.Text

/-- Ranges of code points, each with both its ends. -/
abbrev CodePoints := Array (Nat × Nat)

/-- Whether a code point lies in one of the ranges. -/
def CodePoints.contains (ranges : CodePoints) (codePoint : Nat) : Bool :=
  ranges.any fun range => range.1 ≤ codePoint && codePoint ≤ range.2

end UserFs.Text

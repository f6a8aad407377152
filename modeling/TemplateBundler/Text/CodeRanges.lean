/-! # Ranges of code points

A property of characters is given as closed ranges of code points, in ascending
order and apart from each other. The order is a convention of the tables; looking
a character up does not rely on it.
-/

namespace TemplateBundler.Text

/-- Closed ranges of code points. -/
abbrev CodeRanges := List (Nat × Nat)

/-- Whether some range covers the character. -/
def CodeRanges.covers (ranges : CodeRanges) (c : Char) : Bool :=
  ranges.any fun range => range.1 ≤ c.toNat && c.toNat ≤ range.2

end TemplateBundler.Text

/-!
# Ranges of code points

A property of characters is given by the ranges of code points that have it.  A table of ranges
is in order when its ranges ascend and do not touch.
-/

namespace CcxLexis.Text

/-- Ranges of code points, ends included. -/
abbrev Ranges := List (Nat × Nat)

namespace Ranges

def covers (ranges : Ranges) (c : Char) : Bool :=
  ranges.any fun range => range.1 ≤ c.toNat && c.toNat ≤ range.2

/-- Whether every range is a range and ends before the next one starts. -/
def ascending : Ranges → Bool
  | [] => true
  | [range] => range.1 ≤ range.2
  | range :: next :: ranges =>
    range.1 ≤ range.2 && range.2 + 1 < next.1 && ascending (next :: ranges)

end Ranges

end CcxLexis.Text

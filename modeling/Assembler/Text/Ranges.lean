/-!
# Sets of code points

A class of characters is given by the ranges of its code points.
-/

namespace Assembler.Text

/-- A set of code points, as inclusive ranges in increasing order. -/
abbrev Ranges := Array (Nat × Nat)

/-- The range that holds `n`, if any, decides membership. -/
def Ranges.contains (ranges : Ranges) (n : Nat) : Bool :=
  ranges.any fun range => range.1 ≤ n && n ≤ range.2

end Assembler.Text

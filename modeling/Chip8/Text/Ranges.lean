import Chip8.Text.CodePoint

/-!
# Ranges of code points

A class of code points as a list of closed ranges, with one membership test.
-/

namespace Chip8

/-- A class of code points: closed ranges in ascending order. -/
abbrev Ranges := Array (Nat × Nat)

/-- The code point lies in one of the ranges. -/
def Ranges.contains (r : Ranges) (c : CodePoint) : Bool :=
  r.any fun (low, high) => low ≤ c.value && c.value ≤ high

end Chip8

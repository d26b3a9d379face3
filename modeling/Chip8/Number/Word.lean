/-!
# Limits of words and of room

Which integers fit signed words of 64 bits, and how many bytes are taken to be too many to hold.
-/

namespace Chip8

/-- The number fits a signed 64-bit word. -/
def fitsWord (i : Int) : Bool := -0x8000000000000000 ≤ i && i < 0x8000000000000000

/-- A fill of as many bytes has no room. How much there is depends on the host; a fill that fits the
machine is far below it. -/
def roomSize : Nat := 0x1000000000

end Chip8

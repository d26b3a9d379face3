import Chip8.System.Registers

/-!
# Drawing sprites

A sprite row is a byte whose set bits flip eight pixels side by side, wrapping at the
right edge; rows wrap at the lower one.

* `Machine.flipRow` flips one row and says whether a pixel went dark.
* `rowSpan` is the stretch of display bytes that observers are told about: the bytes that an
  unbroken row touches, and all of a display row that the sprite row wraps in.
* A row is read from memory just before it is drawn, after the rows above it.
-/

namespace Chip8

/-- The count of pixels in a sprite row. -/
abbrev spriteWidth : Nat := 8

/-- The display column of a place counted past the right edge. -/
def column (x : Nat) : Fin displayWidth := ⟨x % displayWidth, Nat.mod_lt _ (by decide)⟩

/-- The display row of a place counted past the lower edge. -/
def line (y : Nat) : Fin displayHeight := ⟨y % displayHeight, Nat.mod_lt _ (by decide)⟩

/-- The machine with one pixel flipped, and whether it was set. -/
def Machine.flipPixel (m : Machine) (x : Fin displayWidth) (y : Fin displayHeight) :
    Machine × Bool :=
  (m.setPixel x y !(m.pixel x y), m.pixel x y)

/-- The set bits of a sprite row among the given ones flip their pixels. -/
def Machine.flipBits (x : Nat) (y : Fin displayHeight) (row : UInt8) :
    List (Fin spriteWidth) → Machine × Bool → Machine × Bool
  | [], s => s
  | j :: rest, (m, hit) =>
    if bitAt row j then
      let (m, wasSet) := m.flipPixel (column (x + j.val)) y
      flipBits x y row rest (m, hit || wasSet)
    else flipBits x y row rest (m, hit)

/-- The machine with a sprite row drawn, and whether a pixel went dark. -/
def Machine.flipRow (m : Machine) (x : Nat) (y : Fin displayHeight) (row : UInt8) :
    Machine × Bool :=
  flipBits x y row (List.finRange spriteWidth) (m, false)

/-- The first display byte and the count of bytes of a sprite row. -/
def rowSpan (x : Fin displayWidth) (y : Fin displayHeight) : Nat × Nat :=
  let start := y.val * displayWidth
  if x.val + spriteWidth ≤ displayWidth then
    let first := (start + x.val) / 8
    let last := (start + x.val + (spriteWidth - 1)) / 8
    (first, last - first + 1)
  else (start / 8, displayWidth / 8)

namespace System

/-- The sprite rows from the `r`-th on are drawn; the result says whether a pixel went dark. -/
def drawRows (x y r : Nat) : Nat → Bool → Action Bool
  | 0, hit => pure hit
  | rows + 1, hit => do
    let m ← look
    let row := m.readByte (m.i.toNat + r : Nat)
    let (m, wasSet) := m.flipRow x (line (y + r)) row
    change fun _ => m
    let (first, length) := rowSpan (column x) (line (y + r))
    notify (.memory (displayStart + first : Nat) length)
    drawRows x y (r + 1) rows (hit || wasSet)

/-- A sprite of `n` rows from memory at I is drawn at the place that two registers name. -/
def draw (x y : VIndex) (n : Nat) : Action Unit := do
  let m ← look
  let left := (m.v.get x).toNat
  let top := (m.v.get y).toNat
  let hit ← drawRows left top 0 n false
  setV flagRegister (if hit then 1 else 0)
  notify (.drawn (column left : Nat) (line top : Nat) n)

end System

end Chip8

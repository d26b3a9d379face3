import Chip8.Text.Hex

/-!
# The keypad

Sixteen keys in four rows, and the letters and digits of a keyboard that stand for them.
-/

namespace Chip8

def keypadLayout : List (List Nat) :=
  [[0x1, 0x2, 0x3, 0xC], [0x4, 0x5, 0x6, 0xD], [0x7, 0x8, 0x9, 0xE], [0xA, 0x0, 0xB, 0xF]]

/-- The left side of a keyboard, row by row. -/
def hostRows : List String := ["1234", "qwer", "asdf", "zxcv"]

/-- The host keys, each with the key at its place. -/
def hostKeys : List (Char × Nat) :=
  (hostRows.zip keypadLayout).flatMap fun (row, keys) => row.toList.zip keys

def keyLabel (n : Int) : String := HexCase.upper.int 1 n

end Chip8

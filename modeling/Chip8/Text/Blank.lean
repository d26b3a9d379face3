import Chip8.Text.Ranges

/-!
# Blanks around a numeral

A numeral may stand between blanks: the six ASCII blanks, and every white space
code point beyond ASCII. The four ASCII information separators are no blanks here.
-/

namespace Chip8.Text

def blankRanges : Ranges := #[
  (0x9, 0xd), (0x20, 0x20), (0x85, 0x85), (0xa0, 0xa0), (0x1680, 0x1680), (0x2000, 0x200a),
  (0x2028, 0x2029), (0x202f, 0x202f), (0x205f, 0x205f), (0x3000, 0x3000)
]

/-- The code point may stand around a numeral. -/
def isBlank (c : CodePoint) : Bool := blankRanges.contains c

/-- The text without the blanks at its ends. -/
def trimBlanks (t : Text) : Text :=
  ((t.dropWhile isBlank).reverse.dropWhile isBlank).reverse

end Chip8.Text

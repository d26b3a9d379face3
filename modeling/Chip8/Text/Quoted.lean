import Chip8.Text.Hex
import Chip8.Text.Printable

/-!
# Quoted text in messages

A text between quotation marks, as error messages show it:

* apostrophes enclose it, double quotes only if it holds an apostrophe and no double quote;
* the backslash and the enclosing mark get a backslash, tab, newline and return their letter;
* other code points that do not print are written as `\xhh`, `\uhhhh` or `\Uhhhhhhhh`,
  by the shortest that fits.

So a quoted text never holds half of a surrogate pair, and is a plain string.
-/

namespace Chip8.Text

/-- The mark that encloses a text. -/
def quotationMark (t : Text) : Char :=
  if t.contains (CodePoint.ofChar '\'') && !t.contains (CodePoint.ofChar '"') then '"' else '\''

/-- An escape by number. -/
def numericEscape (c : CodePoint) : String :=
  if c.value < 0x100 then "\\x" ++ HexCase.lower.nat 2 c.value
  else if c.value < 0x10000 then "\\u" ++ HexCase.lower.nat 4 c.value
  else "\\U" ++ HexCase.lower.nat 8 c.value

def quotedPoint (mark : Char) (c : CodePoint) : String :=
  match c.toChar? with
  | none => numericEscape c
  | some ch =>
    if ch = mark || ch = '\\' then String.ofList ['\\', ch]
    else if ch = '\n' then "\\n"
    else if ch = '\r' then "\\r"
    else if ch = '\t' then "\\t"
    else if isPrintable c then String.singleton ch
    else numericEscape c

def quoted (t : Text) : String :=
  let mark := quotationMark t
  String.singleton mark ++ String.join (t.map (quotedPoint mark)) ++ String.singleton mark

end Chip8.Text

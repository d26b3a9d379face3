import Chip8.Json.Basic
import Chip8.Text.Hex

/-!
# Writing JSON

* `Json.quote` writes a text in ASCII: two surrogates for a code point beyond the first plane,
  short escapes for the controls that have one.
* `Json.compact` writes a value on one line, `Json.pretty` with two blanks of indentation
  for each level and empty containers closed at once.
-/

namespace Chip8.Json

def escapeUnit (n : Nat) : String := "\\u" ++ HexCase.lower.nat 4 n

/-- One code point inside a quoted text. -/
def escapePoint (c : CodePoint) : String :=
  if c.value = 0x22 then "\\\""
  else if c.value = 0x5C then "\\\\"
  else if c.value = 0x0A then "\\n"
  else if c.value = 0x0D then "\\r"
  else if c.value = 0x09 then "\\t"
  else if c.value = 0x08 then "\\b"
  else if c.value = 0x0C then "\\f"
  else if 0x20 ≤ c.value ∧ c.value < 0x7F then String.singleton (Char.ofNat c.value)
  else if c.value < 0x10000 then escapeUnit c.value
  else
    let n := c.value - 0x10000
    escapeUnit (0xD800 + n / 0x400) ++ escapeUnit (0xDC00 + n % 0x400)

def quote (t : Text) : String := "\"" ++ String.join (t.map escapePoint) ++ "\""

/-- The text of a number, a truth value or null. -/
def atom : Json → String
  | .null => "null"
  | .bool true => "true"
  | .bool false => "false"
  | .int n => toString n
  | .float x => DecimalLayout.stored.text x
  | .str t => quote t
  | .arr _ => "[]"
  | .obj _ => "\x7b\x7d"

mutual

def compact : Json → String
  | .arr items => "[" ++ ",".intercalate (compactItems items) ++ "]"
  | .obj members => "\x7b" ++ ",".intercalate (compactMembers members) ++ "\x7d"
  | v => atom v

def compactItems : List Json → List String
  | [] => []
  | x :: xs => compact x :: compactItems xs

def compactMembers : List (Text × Json) → List String
  | [] => []
  | (k, x) :: ms => (quote k ++ ":" ++ compact x) :: compactMembers ms

end

/-- A line break and the indentation of a level. -/
def lineAt (level : Nat) : String := String.ofList ('\n' :: List.replicate (2 * level) ' ')

/-- Rows between brackets, each on a line of its own one level deeper. -/
def enclosed (level : Nat) (opening closing : String) (rows : List String) : String :=
  opening ++ lineAt (level + 1) ++ ("," ++ lineAt (level + 1)).intercalate rows
    ++ lineAt level ++ closing

mutual

/-- The value over several lines, its inside one level deeper. -/
def prettyAt (level : Nat) : Json → String
  | .arr [] => "[]"
  | .arr (x :: xs) =>
    enclosed level "[" "]" (prettyAt (level + 1) x :: prettyItems (level + 1) xs)
  | .obj [] => "\x7b\x7d"
  | .obj ((k, x) :: ms) =>
    enclosed level "\x7b" "\x7d"
      ((quote k ++ ": " ++ prettyAt (level + 1) x) :: prettyMembers (level + 1) ms)
  | v => atom v

def prettyItems (level : Nat) : List Json → List String
  | [] => []
  | x :: xs => prettyAt level x :: prettyItems level xs

def prettyMembers (level : Nat) : List (Text × Json) → List String
  | [] => []
  | (k, x) :: ms => (quote k ++ ": " ++ prettyAt level x) :: prettyMembers level ms

end

def pretty (v : Json) : String := prettyAt 0 v

end Chip8.Json

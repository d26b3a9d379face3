import Chip8.Text.Blank
import Chip8.Text.DecimalDigit

/-!
# Numerals

Integers read from text: a sign and decimal digits of any script between blanks,
single underscores allowed between digits. Leading zeros count as digits, and
`Numeral.digitLimit` bounds their number; the digits are counted before what follows
them is looked at.
-/

namespace Chip8.Numeral

/-- The greatest count of digits that is read. -/
def digitLimit : Nat := 4300

/-- Why a text is not read as an integer. -/
inductive Fault where
  /-- It does not have the form of a numeral. -/
  | malformed
  /-- It is a numeral of more digits than the limit. -/
  | tooLong (digits : Nat)
  deriving DecidableEq

/-- The digits of a text of digits with single underscores between them. -/
def digits? : Text → Option (List Nat)
  | [] => none
  | [c] => (Text.digitValue? c).map ([·])
  | c :: d :: rest => do
    let v ← Text.digitValue? c
    if d = CodePoint.ofChar '_' then return v :: (← digits? rest)
    else return v :: (← digits? (d :: rest))

/-- The number that digits stand for, most significant first. -/
def ofDigits (ds : List Nat) : Nat := ds.foldl (fun n d => 10 * n + d) 0

/-- The number that digits stand for, if they are not too many. -/
def ofDigits? (ds : List Nat) : Except Fault Nat :=
  if digitLimit < ds.length then throw (.tooLong ds.length) else return ofDigits ds

/-- A code point that may stand in a numeral after its sign. -/
def isDigitPlace (c : CodePoint) : Bool :=
  c == CodePoint.ofChar '_' || (Text.digitValue? c).isSome

/-- The number that a text of nothing but digits stands for. -/
def magnitude (t : Text) : Except Fault Nat :=
  match digits? (t.takeWhile isDigitPlace) with
  | none => throw .malformed
  | some ds => do
    let n ← ofDigits? ds
    if t.all isDigitPlace then return n else throw .malformed

/-- The integer that a text without blanks at its ends stands for. -/
def ofSigned? (t : Text) : Except Fault Int :=
  match t with
  | [] => throw .malformed
  | c :: rest =>
    if c = CodePoint.ofChar '-' then do return -(← magnitude rest : Int)
    else if c = CodePoint.ofChar '+' then do return (← magnitude rest : Int)
    else do return (← magnitude (c :: rest) : Int)

/-- The integer that a text stands for. -/
def read (t : Text) : Except Fault Int := ofSigned? (Text.trimBlanks t)

/-- The message for a numeral of too many digits. -/
def tooLongMessage (digits : Nat) : String :=
  "Exceeds the limit (" ++ toString digitLimit
    ++ " digits) for integer string conversion: value has " ++ toString digits
    ++ " digits; use sys.set_int_max_str_digits() to increase the limit"

end Chip8.Numeral

import Chip8.Json.Basic
import Chip8.Number.Numeral
import Chip8.Text.Quoted

/-!
# Integers from stored values

A stored value is taken as an integer where settings ask for one: numbers are cut
towards zero, texts are read as numerals, and nothing else is accepted.
-/

namespace Chip8

/-- What kind of value a JSON value is. -/
inductive Json.Kind where
  | null
  | bool
  | int
  | float
  | str
  | arr
  | obj
  deriving DecidableEq

/-- The name of a kind in messages. -/
def Json.Kind.name : Json.Kind → String
  | .null => "NoneType"
  | .bool => "bool"
  | .int => "int"
  | .float => "float"
  | .str => "str"
  | .arr => "list"
  | .obj => "dict"

def Json.kind : Json → Json.Kind
  | .null => .null
  | .bool _ => .bool
  | .int _ => .int
  | .float _ => .float
  | .str _ => .str
  | .arr _ => .arr
  | .obj _ => .obj

/-- Why a value is not taken as an integer. -/
inductive ConversionFault where
  /-- The text is no numeral. -/
  | numeral (t : Text)
  | tooLong (digits : Nat)
  /-- The number has no whole part. -/
  | whole (cause : Number.WholeFault)
  /-- The value is neither a number nor a text. -/
  | kind (k : Json.Kind)

namespace ConversionFault

/-- How much of a quoted text a message shows. -/
def shownLength : Nat := 200

def message : ConversionFault → String
  | .numeral t => "invalid literal for int() with base 10: "
      ++ String.ofList ((Text.quoted t).toList.take shownLength)
  | .tooLong digits => Numeral.tooLongMessage digits
  | .whole .nan => "cannot convert float NaN to integer"
  | .whole .infinite => "cannot convert float infinity to integer"
  | .kind k => "int() argument must be a string, a bytes-like object or a real number, not '"
      ++ k.name ++ "'"

end ConversionFault

/-- The integer that a number is cut to. -/
def Number.toInt (x : Number) : Except ConversionFault Int :=
  match x.whole with
  | .ok n => return n
  | .error cause => throw (.whole cause)

/-- The integer that a value is taken for. -/
def Json.toInt (v : Json) : Except ConversionFault Int :=
  match v with
  | .str t =>
    match Numeral.read t with
    | .ok n => return n
    | .error .malformed => throw (.numeral t)
    | .error (.tooLong digits) => throw (.tooLong digits)
  | v =>
    match v.number? with
    | some x => x.toInt
    | none => throw (.kind v.kind)

end Chip8

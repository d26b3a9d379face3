import Chip8.Opcode.Operands
import Chip8.Opcode.Table
import Chip8.Text.Hex

/-!
# Decoded instructions

An opcode with the table entry that it matches, if any.

* `Decoded.ofWord` keeps the low sixteen bits of a word and looks for the first match.
* `Decoded.text` is the instruction in words, `Decoded.title` puts the opcode in front.
-/

namespace Chip8

/-- The first entry of a table that matches an opcode. -/
def findRow? (table : List TableEntry) (opcode : UInt16) : Option TableEntry :=
  table.find? (·.matches opcode)

structure Decoded where
  opcode : UInt16
  row? : Option TableEntry

def registerName (k : Fin registerCount) : String := "v" ++ HexCase.lower.nat 1 k

/-- A number with its base in front. -/
def hexLiteral (digits n : Nat) : String := "0x" ++ HexCase.lower.nat digits n

def Operation.describe (op : Operation) (o : Operands) : String :=
  let x := registerName o.x
  let y := registerName o.y
  let byte := hexLiteral 2 o.nn
  let address := hexLiteral 3 o.nnn
  match op with
  | .clearScreen => "disp_clear()"
  | .return => "return"
  | .routine => "call " ++ address
  | .jump => "goto " ++ address
  | .call => "*(" ++ address ++ ")()"
  | .skipIfByte => "if (" ++ x ++ " == " ++ byte ++ ")"
  | .skipUnlessByte => "if (" ++ x ++ " != " ++ byte ++ ")"
  | .skipIfEqual => "if (" ++ x ++ " == " ++ y ++ ")"
  | .setByte => x ++ " = " ++ byte
  | .addByte => x ++ " += " ++ byte
  | .copy => x ++ " = " ++ y
  | .bitOr => x ++ " |= " ++ y
  | .bitAnd => x ++ " &= " ++ y
  | .bitXor => x ++ " ^= " ++ y
  | .add => x ++ " += " ++ y
  | .subtract => x ++ " -= " ++ y
  | .shiftRight => x ++ " >>= 1"
  | .subtractFrom => x ++ " = " ++ y ++ " - " ++ x
  | .shiftLeft => x ++ " <<= 1"
  | .skipUnlessEqual => "if (" ++ x ++ " != " ++ y ++ ")"
  | .setIndex => "I = " ++ address
  | .jumpFrom => "PC = v0 + " ++ address
  | .random => x ++ " = rand() & " ++ byte
  | .draw => "draw(" ++ x ++ ", " ++ y ++ ", " ++ toString o.n ++ ")"
  | .skipIfKey => "if (key() == " ++ x ++ ")"
  | .skipUnlessKey => "if (key() != " ++ x ++ ")"
  | .readDelay => x ++ " = get_delay()"
  | .awaitKey => x ++ " = get_key()"
  | .setDelay => "delay_timer(" ++ x ++ ")"
  | .setSound => "sound_timer(" ++ x ++ ")"
  | .addIndex => "I += " ++ x
  | .glyph => "I = sprite_addr[" ++ x ++ "]"
  | .storeDecimal => "set_BCD(" ++ x ++ ")"
  | .dumpRegisters => "reg_dump(" ++ x ++ ", &I)"
  | .loadRegisters => "reg_load(" ++ x ++ ", &I)"

namespace Decoded

def ofOpcode (opcode : UInt16) : Decoded := ⟨opcode, findRow? instructionTable opcode⟩

/-- The instruction in the low sixteen bits of a word. -/
def ofWord (word : Int) : Decoded := ofOpcode (UInt16.ofInt word)

def operands (d : Decoded) : Operands := .ofOpcode d.opcode

def isKnown (d : Decoded) : Bool := d.row?.isSome

def digits (d : Decoded) : String := HexCase.upper.nat 4 d.opcode.toNat

/-- The pattern of the entry, or the opcode itself. -/
def pattern (d : Decoded) : String :=
  match d.row? with
  | some e => e.pattern
  | none => d.digits

/-- The instruction in words; an unknown one has none. -/
def text (d : Decoded) : String :=
  match d.row? with
  | some e => e.operation.describe d.operands
  | none => ""

/-- The opcode, and the instruction in words behind it. -/
def title (d : Decoded) : String :=
  if d.text.isEmpty then d.digits else d.digits ++ "  " ++ d.text

end Decoded

end Chip8

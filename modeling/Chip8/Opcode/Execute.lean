import Chip8.Opcode.Decoded
import Chip8.Opcode.Sprite
import Chip8.System.Lifecycle

/-!
# Execution

What each operation does to a system.

* The result is the address to go on at, not reduced, or nothing for the next instruction.
* Jumps, calls and returns give their target, skips the address after the next instruction, and
  waiting for a key gives the instruction's own address.
* Arithmetic writes the flag before the result, so a result in the flag register stands. Shifts
  read their operand anew after the flag was written.
* An opcode that the table does not know changes nothing but the log.
-/

namespace Chip8.System

/-- The address after the next instruction, if a condition on the machine holds. -/
def skipIf (condition : Machine → Bool) : Action (Option Nat) := do
  let m ← look
  return if condition m then some m.skipPc else none

/-- The decimal digits of a byte: hundreds, tens, ones. -/
def decimalDigits (b : UInt8) : List Int :=
  [(b.toNat / 100 : Nat), (b.toNat / 10 % 10 : Nat), (b.toNat % 10 : Nat)]

def flag (set : Bool) : Int := if set then 1 else 0

def perform (op : Operation) (o : Operands) : Action (Option Nat) := do
  let m ← look
  let vx := m.v.get o.x
  let vy := m.v.get o.y
  match op with
  | .clearScreen => clearDisplay; return none
  | .return => return some (← popStack).toNat
  | .routine => return some o.nnn
  | .jump => return some o.nnn
  | .call => pushStack m.nextPc; return some o.nnn
  | .skipIfByte => skipIf fun _ => vx.toNat == o.nn
  | .skipUnlessByte => skipIf fun _ => vx.toNat != o.nn
  | .skipIfEqual => skipIf fun _ => vx == vy
  | .setByte => setV o.x o.nn; return none
  | .addByte => setV o.x (vx.toNat + o.nn); return none
  | .copy => setV o.x vy.toNat; return none
  | .bitOr => setV o.x (vx ||| vy).toNat; return none
  | .bitAnd => setV o.x (vx &&& vy).toNat; return none
  | .bitXor => setV o.x (vx ^^^ vy).toNat; return none
  | .add =>
    setV flagRegister (flag (255 < vx.toNat + vy.toNat))
    setV o.x (vx.toNat + vy.toNat)
    return none
  | .subtract =>
    setV flagRegister (flag (vy < vx))
    setV o.x ((vx.toNat : Int) - vy.toNat)
    return none
  | .shiftRight =>
    setV flagRegister (vx.toNat % 2 : Nat)
    let m ← look
    setV o.x ((m.v.get o.x).toNat / 2 : Nat)
    return none
  | .subtractFrom =>
    setV flagRegister (flag (vx < vy))
    setV o.x ((vy.toNat : Int) - vx.toNat)
    return none
  | .shiftLeft =>
    setV flagRegister (vx.toNat / 128 : Nat)
    let m ← look
    setV o.x ((m.v.get o.x).toNat * 2 : Nat)
    return none
  | .skipUnlessEqual => skipIf fun _ => vx != vy
  | .setIndex => setI o.nnn; return none
  | .jumpFrom => return some ((m.v.get baseRegister).toNat + o.nnn)
  | .random =>
    let b ← random
    setV o.x (b.toNat &&& o.nn : Nat)
    return none
  | .draw => draw o.x o.y o.n; return none
  | .skipIfKey => skipIf fun m => m.key.any fun k => k.val == vx.toNat
  | .skipUnlessKey => skipIf fun m => !m.key.any fun k => k.val == vx.toNat
  | .readDelay => setV o.x m.dt.toNat; return none
  | .awaitKey =>
    match m.key with
    | none => return some m.pc.toNat
    | some k => setV o.x (k : Nat); return none
  | .setDelay => setDt vx.toNat; return none
  | .setSound => setSt vx.toNat; return none
  | .addIndex => setI (m.i.toNat + vx.toNat : Nat); return none
  | .glyph => setI (vx.toNat * glyphSize : Nat); return none
  | .storeDecimal => writeBlock m.i.toNat (decimalDigits vx); return none
  | .dumpRegisters => regDump (o.x : Nat); return none
  | .loadRegisters => regLoad (o.x : Nat); return none

def execute (d : Decoded) : Action (Option Nat) := do
  match d.row? with
  | some e => perform e.operation d.operands
  | none =>
    let m ← look
    report (.unknownOpcode d.opcode m.pc)
    return none

end Chip8.System

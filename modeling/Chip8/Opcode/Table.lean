/-!
# The instruction table

The 35 operations with the opcodes they answer to.

* An entry matches an opcode whose bits under `mask` are `value`; the first match counts.
* `00E0` and `00EE` stand before `0NNN`, which matches their opcodes too. No other two entries
  match one opcode.
-/

namespace Chip8

inductive Operation where
  | clearScreen
  | return
  | routine
  | jump
  | call
  | skipIfByte
  | skipUnlessByte
  | skipIfEqual
  | setByte
  | addByte
  | copy
  | bitOr
  | bitAnd
  | bitXor
  | add
  | subtract
  | shiftRight
  | subtractFrom
  | shiftLeft
  | skipUnlessEqual
  | setIndex
  | jumpFrom
  | random
  | draw
  | skipIfKey
  | skipUnlessKey
  | readDelay
  | awaitKey
  | setDelay
  | setSound
  | addIndex
  | glyph
  | storeDecimal
  | dumpRegisters
  | loadRegisters
  deriving DecidableEq

structure TableEntry where
  operation : Operation
  /-- The opcode with letters for its operands. -/
  pattern : String
  mask : UInt16
  value : UInt16

/-- The opcode is one of the entry's. -/
def TableEntry.matches (e : TableEntry) (opcode : UInt16) : Bool := opcode &&& e.mask == e.value

/-- The table, in the order of matching. -/
def instructionTable : List TableEntry := [
  ⟨.clearScreen, "00E0", 0xFFFF, 0x00E0⟩,
  ⟨.return, "00EE", 0xFFFF, 0x00EE⟩,
  ⟨.routine, "0NNN", 0xF000, 0x0000⟩,
  ⟨.jump, "1NNN", 0xF000, 0x1000⟩,
  ⟨.call, "2NNN", 0xF000, 0x2000⟩,
  ⟨.skipIfByte, "3XNN", 0xF000, 0x3000⟩,
  ⟨.skipUnlessByte, "4XNN", 0xF000, 0x4000⟩,
  ⟨.skipIfEqual, "5XY0", 0xF00F, 0x5000⟩,
  ⟨.setByte, "6XNN", 0xF000, 0x6000⟩,
  ⟨.addByte, "7XNN", 0xF000, 0x7000⟩,
  ⟨.copy, "8XY0", 0xF00F, 0x8000⟩,
  ⟨.bitOr, "8XY1", 0xF00F, 0x8001⟩,
  ⟨.bitAnd, "8XY2", 0xF00F, 0x8002⟩,
  ⟨.bitXor, "8XY3", 0xF00F, 0x8003⟩,
  ⟨.add, "8XY4", 0xF00F, 0x8004⟩,
  ⟨.subtract, "8XY5", 0xF00F, 0x8005⟩,
  ⟨.shiftRight, "8XY6", 0xF00F, 0x8006⟩,
  ⟨.subtractFrom, "8XY7", 0xF00F, 0x8007⟩,
  ⟨.shiftLeft, "8XYE", 0xF00F, 0x800E⟩,
  ⟨.skipUnlessEqual, "9XY0", 0xF00F, 0x9000⟩,
  ⟨.setIndex, "ANNN", 0xF000, 0xA000⟩,
  ⟨.jumpFrom, "BNNN", 0xF000, 0xB000⟩,
  ⟨.random, "CXNN", 0xF000, 0xC000⟩,
  ⟨.draw, "DXYN", 0xF000, 0xD000⟩,
  ⟨.skipIfKey, "EX9E", 0xF0FF, 0xE09E⟩,
  ⟨.skipUnlessKey, "EXA1", 0xF0FF, 0xE0A1⟩,
  ⟨.readDelay, "FX07", 0xF0FF, 0xF007⟩,
  ⟨.awaitKey, "FX0A", 0xF0FF, 0xF00A⟩,
  ⟨.setDelay, "FX15", 0xF0FF, 0xF015⟩,
  ⟨.setSound, "FX18", 0xF0FF, 0xF018⟩,
  ⟨.addIndex, "FX1E", 0xF0FF, 0xF01E⟩,
  ⟨.glyph, "FX29", 0xF0FF, 0xF029⟩,
  ⟨.storeDecimal, "FX33", 0xF0FF, 0xF033⟩,
  ⟨.dumpRegisters, "FX55", 0xF0FF, 0xF055⟩,
  ⟨.loadRegisters, "FX65", 0xF0FF, 0xF065⟩]

end Chip8

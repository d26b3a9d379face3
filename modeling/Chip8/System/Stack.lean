import Chip8.System.Registers

/-!
# The call stack

Return addresses in memory from `stackStart` on, two bytes each; SP counts the bytes in use.

* A push on a full stack and a pop from an empty one are refused before anything is written.
* A pop lowers SP first, then reads the slot, then clears it.
-/

namespace Chip8.System

/-- The high and the low byte of a word. -/
def wordBytes (w : UInt16) : List UInt8 := [(w >>> 8).toUInt8, w.toUInt8]

/-- A return address goes on the stack. -/
def pushStack (address : Int) : Action Unit := do
  let m ← look
  if stackSize ≤ m.sp.toNat then refuse (.stackOverflow m.sp)
  else
    setBytes (stackStart + m.sp.toNat : Nat) (wordBytes (UInt16.ofInt address))
    setSp ((m.sp.toNat : Int) + 2)

/-- The newest return address comes off the stack. -/
def popStack : Action UInt16 := do
  let m ← look
  if m.sp = 0 then refuse (.stackUnderflow m.sp)
  else
    setSp ((m.sp.toNat : Int) - 2)
    let m ← look
    let offset := stackStart + m.sp.toNat
    let address := m.readWord offset
    setBytes offset [0, 0]
    return address

end Chip8.System

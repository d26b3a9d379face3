import Chip8.System.Memory

/-!
# Writing registers

Each write keeps as many low bits as the register has and then notifies.

* A V register may be named by any index; negative ones count from the last register, and the
  notification repeats the index as it was given.
* `regDump` and `regLoad` copy the first V registers to and from memory at I.
-/

namespace Chip8.System

/-- A V register takes a value; the notification names it by an index. -/
def setVAs (k : VIndex) (index : WholeNumber) (value : Int) : Action Unit := do
  change fun m => { m with v := m.v.set k (UInt8.ofInt value) k.isLt }
  notify (.register (.v index))

def setV (k : VIndex) (value : Int) : Action Unit := setVAs k (k : Nat) value

/-- The V register at an index takes a value. -/
def setVAt (index : WholeNumber) (value : Int) : Action Unit := do
  match resolveIndex .buffer registerCount index.value with
  | .ok k => setVAs k index value
  | .error cause => refuse (.index cause)

def setI (address : Int) : Action Unit := do
  change fun m => { m with i := UInt16.ofInt address }
  notify (.register .i)

def setPc (address : Int) : Action Unit := do
  change fun m => { m with pc := UInt16.ofInt address }
  notify (.register .pc)

def setSp (offset : Int) : Action Unit := do
  change fun m => { m with sp := UInt8.ofInt offset }
  notify (.register .sp)

def setDt (value : Int) : Action Unit := do
  change fun m => { m with dt := UInt8.ofInt value }
  notify (.register .dt)

def setSt (value : Int) : Action Unit := do
  change fun m => { m with st := UInt8.ofInt value }
  notify (.register .st)

/-- The V registers up to `n` are stored at I. A negative `n` leaves out registers at the end. -/
def regDump (n : Int) : Action Unit := do
  let m ← look
  writeBlock m.i.toNat (Data.numbers (cutAt m.v.toList (n + 1)))

/-- Registers from an index on take the bytes of a block. -/
def loadFrom (index : Int) : List UInt8 → Action Unit
  | [] => pure ()
  | b :: rest => do
    setVAt index b.toNat
    loadFrom (index + 1) rest

/-- The V registers up to `n` are filled from memory at I, in order, from a block that is read whole
before the first of them. Of a block that is longer than the registers the first byte too many is
refused, and no byte after it is ever used. So the block is cut behind that byte: what comes of it
is the same, and a count beyond all memory takes no room. -/
def regLoad (n : Int) : Action Unit := do
  let m ← look
  loadFrom 0 (m.readBlock m.i.toNat (min (n + 1).toNat (registerCount + 1)))

end Chip8.System

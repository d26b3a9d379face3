import Chip8.Number.Whole

/-!
# Events

What a machine tells its observers: which bytes or which register changed, that the
display was cleared or drawn on, and that an instruction begins. Places and sizes are
told as the writer gave them.
-/

namespace Chip8

/-- A register as events name it. A V register has the index that the writer gave. -/
inductive Register where
  | i
  | pc
  | sp
  | dt
  | st
  | v (index : WholeNumber)
  deriving DecidableEq

inductive EventKind where
  | memory
  | register
  | cleared
  | drawn
  | step
  deriving DecidableEq

inductive Event where
  /-- Bytes changed, from an offset on. -/
  | memory (offset length : WholeNumber)
  | register (name : Register)
  | cleared
  /-- A sprite of some rows was drawn at a place of the display. -/
  | drawn (x y height : WholeNumber)
  /-- An instruction begins. -/
  | step
  deriving DecidableEq

def Event.kind : Event → EventKind
  | .memory _ _ => .memory
  | .register _ => .register
  | .cleared => .cleared
  | .drawn _ _ _ => .drawn
  | .step => .step

end Chip8

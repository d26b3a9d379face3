import Chip8.Number.Basic
import Chip8.Text.Hex

/-!
# Log records

What a computer writes to its log.
-/

namespace Chip8

inductive LogLevel where
  | debug
  | info
  | error
  deriving DecidableEq

inductive LogRecord where
  | reset
  | loaded (size start : Nat)
  /-- An instruction without meaning was passed over. -/
  | unknownOpcode (opcode pc : UInt16)
  /-- Free running began at a rate. -/
  | started (rate : Number)
  /-- Free running was stopped after a count of instructions. -/
  | stopped (executed : Nat)
  /-- Free running came to its end by a fault. -/
  | halted (pc : UInt16)
  deriving DecidableEq

namespace LogRecord

def level : LogRecord → LogLevel
  | .reset | .loaded _ _ | .unknownOpcode _ _ => .debug
  | .started _ | .stopped _ => .info
  | .halted _ => .error

/-- The whole part of a rate as text. -/
def rateText (rate : Number) : String :=
  match rate.whole with
  | .ok n => toString n
  | .error _ => rate.text

def message : LogRecord → String
  | .reset => "Machine reset"
  | .loaded size start =>
    "Loaded " ++ toString size ++ " byte program at 0x" ++ HexCase.upper.nat 3 start
  | .unknownOpcode opcode pc => "Ignoring unknown opcode " ++ HexCase.upper.nat 4 opcode.toNat
      ++ " at 0x" ++ HexCase.upper.nat 3 pc.toNat
  | .started rate => "Started free-running mode at " ++ rateText rate ++ " instructions/s"
  | .stopped executed =>
    "Stopped free-running mode after " ++ toString executed ++ " instructions"
  | .halted pc => "Free-running mode halted at PC=0x" ++ HexCase.upper.nat 3 pc.toNat

end LogRecord

end Chip8

import Chip8.Keys.Code
import Chip8.Text.CodePoint
import Chip8.Text.Hex

/-!
# Faults

Why an operation on a machine fails. `Fault.message` words each cause.
-/

namespace Chip8

/-- Why an operation on a machine fails. -/
inductive Fault where
  /-- The program does not fit its region. -/
  | programTooLarge (size : Nat)
  /-- A push with every stack slot in use. -/
  | stackOverflow (sp : UInt8)
  | stackUnderflow (sp : UInt8)
  /-- A write that leaves memory, or that has fewer bytes than its length says. -/
  | writeOutside (length : WholeNumber) (offset : Int)
  /-- A list of bytes holds a number that is none. -/
  | noByte
  /-- A count that does not fit a signed 64-bit word. -/
  | countTooWide
  /-- More bytes than there is room for. -/
  | noRoom
  /-- An index outside the registers or the display. -/
  | index (cause : IndexFault)
  | invalidKey (code : KeyCode)
  | observer (name : Text)
  /-- Observers sent notifications from within notifications without end. -/
  | nestedTooDeep
  /-- A runner was asked for while another one had not come to its end. -/
  | runnerActive
  deriving DecidableEq

/-- The message. Want of room has none of its own, and the name of an observer is any text. -/
def Fault.message : Fault → Text
  | .programTooLarge size =>
    "Program size " ++ toString size ++ " exceeds maximum " ++ toString programSize
  | .stackOverflow sp => "Stack overflow (sp=0x" ++ HexCase.upper.nat 2 sp.toNat ++ ")"
  | .stackUnderflow sp => "Stack empty (sp=0x" ++ HexCase.upper.nat 2 sp.toNat ++ ")"
  | .writeOutside length offset => "Memory write of " ++ length.text ++ " bytes at 0x"
      ++ HexCase.upper.int 3 offset ++ " out of range"
  | .noByte => "bytes must be in range(0, 256)"
  | .countTooWide => IndexFault.tooWide.message
  | .noRoom => ""
  | .index cause => cause.message
  | .invalidKey code => "Invalid key: " ++ code.text
  | .observer name => "observer " ++ name
  | .nestedTooDeep => "maximum recursion depth exceeded"
  | .runnerActive => "Previous runner thread has not exited"

end Chip8

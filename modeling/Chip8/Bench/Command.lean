import Chip8.Bench.Cast
import Chip8.Clock.FreeRun
import Chip8.Keys.Keypad
import Chip8.Opcode.Listing
import Chip8.Snapshot.Difference

/-!
# Commands

What can be done on a bench, and the replies.
-/

namespace Chip8

/-- What a keypad presses its keys on. -/
inductive KeyTarget where
  | machine
  | computer
  deriving DecidableEq

/-- What a supervisor tries besides a stop. -/
inductive Interference where
  /-- It starts the runner just before it stops it. -/
  | startBefore
  /-- It starts the runner just after it stopped it. -/
  | startAfter
  deriving DecidableEq

/-- The orders of a supervisor who stops the runner at a given step. -/
def stopAt (limit : Int) (interference : Option Interference) (step : Nat) : List Order :=
  if (step : Int) = limit then
    match interference with
    | none => [.stop]
    | some .startBefore => [.start, .stop]
    | some .startAfter => [.stop, .start]
  else []

inductive Command where
  | setI (n : Int)
  | setPc (n : Int)
  | setSp (n : Int)
  | setDt (n : Int)
  | setSt (n : Int)
  | setV (index : WholeNumber) (value : Json)
  | setCycle (n : WholeNumber)
  | press (code : Option KeyCode)
  | release
  | seed (v : Json)
  | regDump (n : Int)
  | regLoad (n : Int)
  | readByte (address : Int)
  | readWord (address : Int)
  | readBlock (address length : Int)
  | setMemory (data : Data) (offset : WholeNumber) (length : Option WholeNumber)
  | writeBlock (ns : List Int) (address : Int)
  | pushStack (address : Int)
  | popStack
  | stackFrames
  | load (image : List UInt8)
  | reset
  | clearDisplay
  | nextPc
  | skipPc
  | random (count : Int)
  | execute (word : Int)
  | executeAll (words : List Int)
  | listing (first last : Int)
  | getBit (x y : Int)
  | setBit (x y : Int) (v : Bool)
  | screen
  | subscribe (name : Text) (actor : Actor) (filter : EventFilter)
  | unsubscribe (name : Text) (actor : Actor)
  | recorded (name : Text) (kind : EventKind)
  | clearRecorded (name : Text)
  | emit (e : Event)
  | observers
  | snap (label : Text)
  | showSnap (label : Text)
  | compare (before : Option Text) (after : Text)
  | setTimers (period enabled : Json)
  | advance (count : Int)
  | enableTimers (enabled : Bool)
  | keypad (entries : List (Text × KeyCode)) (target : KeyTarget)
  | hostKeyDown (name : Text)
  | hostKeyUp (name : Text)
  | translate (name : Text)
  | keypadPress (code : Option KeyCode)
  | keypadRelease (code : Option KeyCode)
  | step (count : Int)
  | run (count : Int)
  | fetch
  | count
  | pressKey (code : Option KeyCode)
  | releaseKey
  | loadProgram (image : List UInt8)
  | resetComputer
  | isRunning
  | stop
  | freeRun (limit : Int) (interference : Option Interference)

/-- What came of a command. -/
inductive Reply where
  | nothing
  | number (n : Int)
  | numbers (ns : List Int)
  | target (pc : Option Nat)
  | targets (pcs : List (Option Nat))
  | bytes (bs : List UInt8)
  | truth (b : Bool)
  | truths (bs : List Bool)
  | titles (texts : List String)
  | decoded (d : Decoded)
  | listing (rows : List ListingRow)
  | screen (lit : Nat) (description : String) (rows : List String)
  | recorded (counts : List (EventKind × Nat)) (events : List Event)
  | observers (ids : List ObserverId)
  | snapshot (s : Snapshot)
  | difference (d : Difference)
  /-- The period, and the switch as it was given. -/
  | timers (period : Nat) (enabled : Json)
  | keymap (entries : KeyEntries)
  | hostKey (mapped : Bool) (held : Option Key)
  | hostCode (code : Option KeyCode) (held : Option Key)
  | held (key : Option Key)
  | freeRun (running : Bool) (executed : Nat) (notes : List StartNote) (fault : Option Fault)

/-- Why a command has no reply. -/
inductive CommandFault where
  | machine (cause : Fault)
  | seed (cause : SeedFault)
  | timers (cause : TimerFault)
  | keymap (cause : KeymapFault)
  | conversion (cause : ConversionFault)
  /-- There is no snapshot of a label. -/
  | snapshot (label : Text)
  /-- What would carry out an operation does not stand on the bench. -/
  | absent (operation : String)
  /-- There is no computer to run free. -/
  | noComputer

def CommandFault.message : CommandFault → Text
  | .machine cause => cause.message
  | .seed cause => cause.message
  | .timers cause => cause.message
  | .keymap cause => cause.message
  | .conversion cause => cause.message
  | .snapshot label => Text.quoted label
  | .absent operation => "'NoneType' object has no attribute '" ++ operation ++ "'"
  | .noComputer => "'NoneType' object does not support the context manager protocol"

end Chip8

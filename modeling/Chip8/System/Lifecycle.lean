import Chip8.System.Stack

/-!
# Reset, loading and input

* A reset clears memory, draws the font anew and clears every register; the pending key and
  the generator stay as they are.
* A program is loaded at `programStart`, and PC goes there.
* Key presses and the generator are no part of what observers are told.
-/

namespace Chip8.System

def clearDisplay : Action Unit := do
  fillBytes displayStart 0 displaySize
  notify .cleared

/-- All V registers are cleared, in order. -/
def clearRegisters : List VIndex → Action Unit
  | [] => pure ()
  | k :: rest => do
    setV k 0
    clearRegisters rest

/-- The machine goes back to the state at power-on. -/
def reset : Action Unit := do
  fillBytes 0 0 memorySize
  clearDisplay
  setBytes fontStart font
  clearRegisters (List.finRange registerCount)
  setI 0
  setSp 0
  setPc 0
  setDt 0
  setSt 0
  change fun m => { m with cycle := 0 }
  report .reset

/-- A program is copied to its region and PC points at it. -/
def loadProgram (image : List UInt8) : Action Unit := do
  if programSize < image.length then refuse (.programTooLarge image.length)
  else
    setBytes programStart image
    setPc programStart
    report (.loaded image.length programStart)

/-- The key of a code is held, or none. -/
def press (code : Option KeyCode) : Action Unit := do
  match code with
  | none => change fun m => { m with key := none }
  | some code =>
    match code.key? with
    | some k => change fun m => { m with key := some k }
    | none => refuse (.invalidKey code)

/-- No key is held. -/
def release : Action Unit := change fun m => { m with key := none }

def random : Action UInt8 := do
  let m ← look
  let (b, g) := m.generator.byte
  change fun m => { m with generator := g }
  return b

/-- The generator starts anew from a seed. -/
def reseed (seed : Option Int) : Action Unit :=
  change fun m => { m with generator := Twister.ofSeed? seed }

def setCycle (n : WholeNumber) : Action Unit := change fun m => { m with cycle := n }

end Chip8.System

import Chip8.Clock.Timers
import Chip8.Opcode.Execute
import Chip8.Random.Seed
import Chip8.Settings.Basic

/-!
# Computers

A system driven by a clock: instructions are fetched at PC, executed and counted.

* `Computer.ofSettings` puts a system under the clock; a seed in the settings starts the
  generator anew, and then the timers are made.
* `Computer.step` announces the instruction, executes it, moves PC, counts it and lets the
  timers advance, in this order. A fault on the way keeps what was done before it.
* `Computer.run` takes a number of steps, `Computer.reset` also clears the count.
-/

namespace Chip8

structure Computer (ω : Type) where
  system : System ω
  settings : Settings
  timers : Timers
  executed : Nat

inductive BuildFault where
  | seed (cause : SeedFault)
  | timers (cause : TimerFault)

abbrev Task (ω : Type) := ExceptT Fault (StateM (Computer ω))

namespace Computer

/-- The system with its generator started by the settings' seed, if they have one. -/
def seeded {ω : Type} (settings : Settings) (system : System ω) :
    Except SeedFault (System ω) := do
  match ← settings.seed.seed with
  | none => return system
  | some n => return { system with machine := { system.machine with generator := .ofSeed n } }

/-- The computer of settings and a system. -/
def ofSettings {ω : Type} (settings : Settings) (system : System ω) :
    Except BuildFault (Computer ω) :=
  match seeded settings system with
  | .error cause => .error (.seed cause)
  | .ok system =>
    match Timers.ofJson settings.timerCycle true with
    | .error cause => .error (.timers cause)
    | .ok timers => .ok ⟨system, settings, timers, 0⟩

variable {ω : Type} [Observers ω]

def perform {α : Type} (t : Task ω α) (c : Computer ω) : Except Fault α × Computer ω :=
  StateT.run (ExceptT.run t) c

def onSystem {α : Type} (a : Action α) : Task ω α := fun c =>
  let (result, system) := System.run a c.system
  (result, { c with system := system })

/-- The instruction at PC of a machine. -/
def fetched (m : Machine) : Decoded := .ofOpcode (m.readWord m.pc.toNat)

/-- The instruction at PC is announced and executed, and PC moves on. -/
def instruction : Action Decoded := do
  System.notify .step
  let d := fetched (← System.look)
  let target ← System.execute d
  let m ← System.look
  System.setPc (target.getD m.nextPc : Nat)
  return d

def step : Task ω Decoded := do
  let d ← onSystem instruction
  modify fun c => { c with executed := c.executed + 1 }
  let _ ← onSystem (← get).timers.advance
  return d

def steps : Nat → Task ω Unit
  | 0 => pure ()
  | n + 1 => do
    let _ ← step
    steps n

/-- As many instructions as asked for; the result is their count. -/
def run (n : Int) : Task ω Nat := do
  steps n.toNat
  return n.toNat

def pressKey (code : Option KeyCode) : Task ω Unit := onSystem (System.press code)

def releaseKey : Task ω Unit := onSystem System.release

def loadProgram (image : List UInt8) : Task ω Unit := onSystem (System.loadProgram image)

/-- The machine is reset and the count cleared. -/
def reset : Task ω Unit := do
  onSystem System.reset
  modify fun c => { c with executed := 0 }

end Computer

end Chip8

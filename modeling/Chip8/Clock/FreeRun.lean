import Chip8.Clock.Computer
import Chip8.Clock.Pacing
import Chip8.Clock.Runner

/-!
# Free running

A computer runs on its own until a supervisor, who is told about every step, stops it.

* `Supervised` adds a runner and a supervisor to what the other observers remember. At each step
  that it is told about, the supervisor gives its orders: it starts or stops the runner, from the
  thread on which it is told.
* `Computer.loop` is what the runner's thread does: it takes steps until it is told to stop, each
  an interval after the one before. The step during which it is told is completed; a fault ends the
  run and is kept. A time that is too long to wait for ends the thread as well, and nothing is kept.
* `Computer.freeRun` starts the runner, follows its thread for some rounds, and stops it.
-/

namespace Chip8

/-- What the supervisor calls. -/
inductive Order where
  | start
  | stop
  deriving DecidableEq

/-- What came of a start that the supervisor tried. -/
inductive StartNote where
  /-- Nothing: the runner ran already. -/
  | running
  | begun
  | refused (cause : Fault)
  deriving DecidableEq

structure Supervisor where
  /-- The orders it gives at a step; the steps it is told about are counted from one. -/
  orders : Nat → List Order
  /-- The thread on which it is told. -/
  caller : Caller
  rate : Number
  /-- The count of executed instructions when the step at hand began. -/
  executed : Nat
  /-- The count of steps it was told about. -/
  seen : Nat
  notes : List StartNote

/-- A supervisor who never orders anything. -/
def Supervisor.idle : Supervisor := ⟨fun _ => [], .outside true, .integer 0, 0, 0, []⟩

/-- What observers remember, with a runner and its supervisor. -/
structure Supervised (ω : Type) where
  memory : ω
  runner : Runner
  supervisor : Supervisor

namespace Supervised

variable {ω : Type}

/-- Observers beside a runner that was never started. -/
def ofMemory (memory : ω) : Supervised ω := ⟨memory, .new, .idle⟩

def note (s : Supervised ω) (n : StartNote) : Supervised ω :=
  { s with supervisor := { s.supervisor with notes := s.supervisor.notes ++ [n] } }

/-- An order is carried out; what it writes to the log comes with it. -/
def obey (s : Supervised ω) : Order → Supervised ω × List LogRecord
  | .start =>
    match s.runner.start s.supervisor.caller with
    | .ok none => (s.note .running, [])
    | .ok (some runner) => ({ s.note .begun with runner := runner }, [.started s.supervisor.rate])
    | .error cause => (s.note (.refused cause), [])
  | .stop =>
    ({ s with runner := s.runner.stop s.supervisor.caller },
      if s.runner.isRunning then [.stopped s.supervisor.executed] else [])

def obeyAll (s : Supervised ω) : List Order → Supervised ω × List LogRecord
  | [] => (s, [])
  | o :: rest =>
    let (s, records) := s.obey o
    let (s, more) := s.obeyAll rest
    (s, records ++ more)

def counted (s : Supervised ω) : Supervised ω :=
  { s with supervisor := { s.supervisor with seen := s.supervisor.seen + 1 } }

/-- The supervisor is told about a step. -/
def onStep (s : Supervised ω) : Supervised ω × List Request :=
  let s := s.counted
  let (s, records) := s.obeyAll (s.supervisor.orders s.supervisor.seen)
  (s, records.map .report)

end Supervised

instance {ω : Type} [Observers ω] : Observers (Supervised ω) where
  react who e m s :=
    match who, e with
    | .supervisor, .step => s.onStep
    | .supervisor, _ => (s, [])
    | who, e =>
      let (memory, requests) := Observers.react who e m s.memory
      ({ s with memory := memory }, requests)
  nesting := Observers.nesting ω

namespace Computer

variable {ω : Type}

def supervised (c : Computer (Supervised ω)) : Supervised ω := c.system.bus.observers

def runner (c : Computer (Supervised ω)) : Runner := c.supervised.runner

/-- The fault that ended free running, if one did. -/
def lastFault (c : Computer (Supervised ω)) : Option Fault := c.runner.lastFault

def changeBus (f : Bus ω → Bus ω) (c : Computer ω) : Computer ω :=
  { c with system := { c.system with bus := f c.system.bus } }

/-- The runner and the observers' memory altered. -/
def changeSupervised (f : Supervised ω → Supervised ω) (c : Computer (Supervised ω)) :
    Computer (Supervised ω) :=
  c.changeBus fun b => { b with observers := f b.observers }

def changeRunner (f : Runner → Runner) (c : Computer (Supervised ω)) : Computer (Supervised ω) :=
  c.changeSupervised fun s => { s with runner := f s.runner }

def changeSupervisor (f : Supervisor → Supervisor) (c : Computer (Supervised ω)) :
    Computer (Supervised ω) :=
  c.changeSupervised fun s => { s with supervisor := f s.supervisor }

/-- The runner is started; the answer says if a thread was begun. -/
def start (caller : Caller) (c : Computer (Supervised ω)) :
    Except Fault Bool × Computer (Supervised ω) :=
  match c.runner.start caller with
  | .ok none => (.ok false, c)
  | .ok (some runner) =>
    let c := c.changeRunner fun _ => runner
    (.ok true, c.changeBus (·.report (.started c.settings.rateNumber)))
  | .error cause => (.error cause, c)

def stop (caller : Caller) (c : Computer (Supervised ω)) : Computer (Supervised ω) :=
  let ran := c.runner.isRunning
  let c := c.changeRunner (·.stop caller)
  if ran then c.changeBus (·.report (.stopped c.executed)) else c

/-! ## The runner's thread -/

/-- A round begins: the supervisor will be told on the runner's thread. -/
def enter (c : Computer (Supervised ω)) : Computer (Supervised ω) :=
  c.changeSupervisor fun s => { s with caller := .inside, executed := c.executed }

/-- The thread comes to its end. -/
def leave (c : Computer (Supervised ω)) : Computer (Supervised ω) :=
  (c.changeRunner Runner.ended).changeSupervisor fun s => { s with caller := .outside true }

def halt (cause : Fault) (c : Computer (Supervised ω)) : Computer (Supervised ω) :=
  (c.changeBus (·.report (.halted c.system.machine.pc))).changeRunner (·.halt cause)

variable [Observers ω]

/-- The step of a round. -/
def round : Task (Supervised ω) Decoded := do
  modify enter
  step

/-- At most a number of rounds of the runner's thread. -/
def loop (clock : Clock) (interval : Binary64) :
    Nat → Pacing → Computer (Supervised ω) → Computer (Supervised ω)
  | 0, _, c => c
  | n + 1, p, c =>
    if c.runner.stopping then c.leave
    else
      match perform round c with
      | (.error cause, c) => (c.halt cause).leave
      | (.ok _, c) =>
        match p.next clock interval c.runner.stopping with
        | some p => loop clock interval n p c
        | none => c.leave

/-- The runner's thread is followed for at most a number of rounds. Without a time between two
steps it ends before the first. -/
def follow (clock : Clock) (rounds : Nat) (c : Computer (Supervised ω)) : Computer (Supervised ω) :=
  match c.settings.stepInterval with
  | .ok interval => loop clock interval rounds (.start clock) c
  | .error _ => c.leave

/-- A supervisor with given orders is subscribed to steps. -/
def brief (orders : Nat → List Order) (c : Computer (Supervised ω)) : Computer (Supervised ω) :=
  (c.changeBus (·.subscribe .supervisor (some [.step]))).changeSupervisor fun _ =>
    ⟨orders, .outside true, c.settings.rateNumber, c.executed, 0, []⟩

def dismiss (c : Computer (Supervised ω)) : Computer (Supervised ω) :=
  (c.changeBus (·.unsubscribe .supervisor)).changeSupervisor fun _ => .idle

/-- A free run under a supervisor, from its start to a stop from outside; what came of the starts
that the supervisor tried. -/
def freeRun (clock : Clock) (orders : Nat → List Order) (rounds : Nat)
    (c : Computer (Supervised ω)) : Except Fault (List StartNote) × Computer (Supervised ω) :=
  match (c.brief orders).start (.outside true) with
  | (.error cause, c) => (.error cause, c.dismiss)
  | (.ok begun, c) =>
    let c := if begun then c.follow clock rounds else c
    let c := c.stop (.outside true)
    (.ok c.supervised.supervisor.notes, c.dismiss)

end Computer

end Chip8

import Chip8.Bench.Command
import Chip8.Bus.Recorder

/-!
# Sessions on a bench

A bench holds a system, alone or in a computer, with timers, a keypad and snapshots on the
side. A session is a list of commands; `Bench.session` reports after each what changed, which
events and notes there were, and what was logged. A command that fails does not end the session.
-/

namespace Chip8

/-- What the observers on a bench remember. -/
abbrev BenchMemory := Supervised Cast

/-- What is on the bench. -/
inductive Subject where
  | bare (s : System BenchMemory)
  | driven (c : Computer BenchMemory)

namespace Subject

def system : Subject → System BenchMemory
  | .bare s => s
  | .driven c => c.system

def withSystem (subject : Subject) (s : System BenchMemory) : Subject :=
  match subject with
  | .bare _ => .bare s
  | .driven c => .driven { c with system := s }

end Subject

/-- A subject with what stands beside it. -/
structure Bench where
  subject : Subject
  timers : Option Timers
  keypad : Option Keypad
  keyTarget : KeyTarget
  snapshots : List (Text × Snapshot)

/-- A reply or a fault, and the bench after it. -/
abbrev BenchOutcome := Except CommandFault Reply × Bench

namespace Bench

def system (b : Bench) : System BenchMemory := b.subject.system

def machine (b : Bench) : Machine := b.system.machine

def changeSystem (b : Bench) (f : System BenchMemory → System BenchMemory) : Bench :=
  { b with subject := b.subject.withSystem (f b.system) }

def changeBus (b : Bench) (f : Bus BenchMemory → Bus BenchMemory) : Bench :=
  b.changeSystem fun s => { s with bus := f s.bus }

def cast (b : Bench) : Cast := b.system.bus.observers.memory

def changeCast (b : Bench) (f : Cast → Cast) : Bench :=
  b.changeBus fun bus =>
    { bus with observers := { bus.observers with memory := f bus.observers.memory } }

/-- An activity of the system, with its reply. -/
def act {α : Type} (b : Bench) (a : Action α) (reply : α → Reply) : BenchOutcome :=
  match System.run a b.system with
  | (.ok x, s) => (.ok (reply x), b.changeSystem fun _ => s)
  | (.error cause, s) => (.error (.machine cause), b.changeSystem fun _ => s)

/-- An activity of the system that has no reply. -/
def actSilently (b : Bench) (a : Action Unit) : BenchOutcome :=
  b.act a fun _ => .nothing

/-- An activity of the computer, with its name and reply. -/
def drive {α : Type} (b : Bench) (operation : String) (t : Task BenchMemory α)
    (reply : α → Reply) : BenchOutcome :=
  match b.subject with
  | .bare _ => (.error (.absent operation), b)
  | .driven c =>
    match Computer.perform t c with
    | (.ok x, c) => (.ok (reply x), { b with subject := .driven c })
    | (.error cause, c) => (.error (.machine cause), { b with subject := .driven c })

/-- A reply that leaves the bench as it is. -/
def answer (b : Bench) (r : Reply) : BenchOutcome := (.ok r, b)

/-- A reply about the computer that leaves it as it is. -/
def ask (b : Bench) (operation : String) (reply : Computer BenchMemory → Reply) : BenchOutcome :=
  match b.subject with
  | .bare _ => (.error (.absent operation), b)
  | .driven c => b.answer (reply c)

/-- An activity again and again; the results in order. -/
def repeated {μ : Type → Type} [Monad μ] {α : Type} (a : μ α) : Nat → List α → μ (List α)
  | 0, reversed => return reversed.reverse
  | n + 1, reversed => do
    let x ← a
    repeated a n (x :: reversed)

/-- Instructions one after the other; their targets in order. -/
def executeAll (words : List Int) : Action (List (Option Nat)) :=
  words.mapM fun w => System.execute (.ofWord w)

/-- Rounds for which a run without an end of its own is followed. -/
def patience : Nat := 1000000

/-- The rounds of a run up to a limit, and the one in which its thread ends. -/
def roundsTo (limit : Int) : Nat := (if 0 < limit then limit.toNat else patience) + 1

/-- A free run on a clock that stands still. A limit of zero or below is never reached. -/
def freeRun (b : Bench) (limit : Int) (interference : Option Interference) : BenchOutcome :=
  match b.subject with
  | .bare _ => (.error .noComputer, b)
  | .driven c =>
    match c.freeRun .still (stopAt limit interference) (roundsTo limit) with
    | (.ok notes, c) =>
      (.ok (.freeRun c.runner.isRunning c.executed notes c.lastFault),
        { b with subject := .driven c })
    | (.error cause, c) => (.error (.machine cause), { b with subject := .driven c })

/-- The computer's runner is stopped, if there is a computer. -/
def stopRunner (b : Bench) : BenchOutcome :=
  match b.subject with
  | .bare _ => (.error (.absent "stop"), b)
  | .driven c => (.ok .nothing, { b with subject := .driven (c.stop (.outside true)) })

/-- The generator starts anew from a seed. -/
def reseed (b : Bench) (v : Json) : BenchOutcome :=
  match v.seed with
  | .ok n => b.actSilently (System.reseed n)
  | .error cause => (.error (.seed cause), b)

/-- The V register at an index takes the integer of a value. -/
def setV (b : Bench) (index : WholeNumber) (v : Json) : BenchOutcome :=
  match v.toInt with
  | .ok n => b.actSilently (System.setVAt index n)
  | .error cause => (.error (.conversion cause), b)

def installKeypad (b : Bench) (entries : List (Text × KeyCode)) (target : KeyTarget) :
    BenchOutcome :=
  match Keymap.ofEntries entries with
  | .ok keymap =>
    let b := { b with keypad := some (.ofKeymap keymap), keyTarget := target }
    (.ok (.keymap keymap.entries), b)
  | .error cause => (.error (.keymap cause), b)

/-- An activity of the keypad, with its name and reply. -/
def key {α : Type} (b : Bench) (operation : String)
    (a : Keypad → Action (α × Keypad)) (reply : α → Option Key → Reply) :
    BenchOutcome :=
  match b.keypad with
  | none => (.error (.absent operation), b)
  | some keypad =>
    match System.run (a keypad) b.system with
    | (.ok (x, keypad), s) =>
      (.ok (reply x keypad.held), { b.changeSystem fun _ => s with keypad := some keypad })
    | (.error cause, s) => (.error (.machine cause), b.changeSystem fun _ => s)

/-- The keypad presses on a computer that is not there. -/
def pressesNothing (b : Bench) : Bool :=
  match b.keyTarget, b.subject with
  | .computer, .bare _ => true
  | _, _ => false

/-- The outcome of a command at which a keypad may press a key; nothing takes the key where the
keypad presses nothing. -/
def pressing (b : Bench) (presses : Keypad → Bool) (outcome : BenchOutcome) : BenchOutcome :=
  if b.pressesNothing && b.keypad.any presses then (.error (.absent "press"), b) else outcome

/-- The key that the keypad holds is noted, if there is a keypad. -/
def noteHeld (o : BenchOutcome) : BenchOutcome :=
  match o.2.keypad with
  | none => o
  | some keypad => (o.1, o.2.changeCast (·.note (.held keypad.held)))

def installTimers (b : Bench) (period enabled : Json) : BenchOutcome :=
  match Timers.ofJson period enabled.isTruthy with
  | .ok t => (.ok (.timers t.period enabled), { b with timers := some t })
  | .error cause => (.error (.timers cause), b)

/-- The timers on the side count instructions. -/
def advance (b : Bench) (count : Int) : BenchOutcome :=
  match b.timers with
  | some t => b.act (repeated t.advance count.toNat []) .truths
  | none => if 0 < count then (.error (.absent "advance"), b) else b.answer (.truths [])

/-- The timers on the side, or else those of the computer, switched on or off. -/
def enableTimers (b : Bench) (enabled : Bool) : BenchOutcome :=
  match b.timers, b.subject with
  | some t, _ => (.ok .nothing, { b with timers := some { t with enabled := enabled } })
  | none, .driven c =>
    (.ok .nothing,
      { b with subject := .driven { c with timers := { c.timers with enabled := enabled } } })
  | none, .bare _ => (.error (.absent "scheduler"), b)

def snapshot (b : Bench) (label : Text) : Except CommandFault Snapshot :=
  match b.snapshots.find? (·.1 == label) with
  | some (_, s) => .ok s
  | none => .error (.snapshot label)

/-- The difference between two labelled snapshots, or from nothing to one. -/
def compare (b : Bench) (before : Option Text) (after : Text) : Except CommandFault Reply := do
  let before ← before.mapM b.snapshot
  return .difference (.since before (← b.snapshot after))

/-- A pixel of the display set without a notification. -/
def setBit (x y : Int) (v : Bool) : Action Unit := do
  let m ← System.look
  match m.display.set x y v with
  | .ok f => System.change fun m => { m with memory := f.plane.buffer }
  | .error cause => System.refuse (.index cause)

def getBit (x y : Int) : Action Bool := do
  let m ← System.look
  match m.display.get x y with
  | .ok v => return v
  | .error cause => System.refuse (.index cause)

def screen (m : Machine) : Reply :=
  .screen m.litCount m.display.describe (m.display.rows.map bitText)

def carryOut (b : Bench) : Command → BenchOutcome
  | .setI n => b.actSilently (System.setI n)
  | .setPc n => b.actSilently (System.setPc n)
  | .setSp n => b.actSilently (System.setSp n)
  | .setDt n => b.actSilently (System.setDt n)
  | .setSt n => b.actSilently (System.setSt n)
  | .setV index v => b.setV index v
  | .setCycle n => b.actSilently (System.setCycle n)
  | .press code => b.actSilently (System.press code)
  | .release => b.actSilently System.release
  | .seed v => b.reseed v
  | .regDump n => b.actSilently (System.regDump n)
  | .regLoad n => b.actSilently (System.regLoad n)
  | .readByte a => b.answer (.number (b.machine.readByte a).toNat)
  | .readWord a => b.answer (.number (b.machine.readWord a).toNat)
  | .readBlock a length => b.answer (.bytes (b.machine.readBlock a length.toNat))
  | .setMemory data offset length => b.actSilently (System.setMemory data offset length)
  | .writeBlock ns a => b.actSilently (System.writeBlock a ns)
  | .pushStack a => b.actSilently (System.pushStack a)
  | .popStack => b.act System.popStack fun w => .number w.toNat
  | .stackFrames => b.answer (.numbers (b.machine.stackFrames.map fun w => (w.toNat : Int)))
  | .load image => b.actSilently (System.loadProgram image)
  | .reset => b.actSilently System.reset
  | .clearDisplay => b.actSilently System.clearDisplay
  | .nextPc => b.answer (.number b.machine.nextPc)
  | .skipPc => b.answer (.number b.machine.skipPc)
  | .random count => b.act (repeated System.random count.toNat [])
      fun bytes => .numbers (bytes.map fun x => (x.toNat : Int))
  | .execute word => b.act (System.execute (.ofWord word)) .target
  | .executeAll words => b.act (executeAll words) .targets
  | .listing first last => b.answer (.listing (b.machine.listing first last))
  | .getBit x y => b.act (getBit x y) .truth
  | .setBit x y v => b.actSilently (setBit x y v)
  | .screen => b.answer (screen b.machine)
  | .subscribe name actor filter =>
    (.ok .nothing, (b.changeCast (·.mention name actor)).changeBus
      (·.subscribe (.client name) filter))
  | .unsubscribe name actor =>
    (.ok .nothing, (b.changeCast (·.mention name actor)).changeBus
      (·.unsubscribe (.client name)))
  | .recorded name kind =>
    let kept := ((b.cast.find? name).getD .noting).kept.reverse
    b.answer (.recorded (kindCounts kept) (eventsOfKind kind kept))
  | .clearRecorded name =>
    let actor := (b.cast.find? name).getD .noting
    (.ok .nothing, b.changeCast (·.update name { actor with kept := [] }))
  | .emit e => b.actSilently (System.notify e)
  | .observers => b.answer (.observers b.system.bus.subscriptions.observers)
  | .snap label =>
    (.ok .nothing, { b with snapshots := (label, b.machine.snapshot) :: b.snapshots })
  | .showSnap label => ((b.snapshot label).map .snapshot, b)
  | .compare before after => (b.compare before after, b)
  | .setTimers period enabled => b.installTimers period enabled
  | .advance count => b.advance count
  | .enableTimers enabled => b.enableTimers enabled
  | .keypad entries target => b.installKeypad entries target
  | .hostKeyDown name => b.pressing (fun p => (p.keymap.translate name).isSome)
      (b.key "host_key_down" (·.hostKeyDown name) .hostKey)
  | .hostKeyUp name => b.key "host_key_up" (·.hostKeyUp name) .hostKey
  | .translate name =>
    b.key "translate" (fun p => return (p.keymap.translate name, p)) .hostCode
  | .keypadPress code =>
    noteHeld (b.pressing (fun _ => true)
      (b.key "held" (fun p => do return ((), ← p.press code)) fun _ => .held))
  | .keypadRelease code =>
    b.key "release" (fun p => do return ((), ← p.release code)) fun _ => .held
  | .step count =>
    if 0 < count then
      b.drive "step" (repeated Computer.step count.toNat [])
        fun ds => .titles (ds.map Decoded.title)
    else b.answer (.titles [])
  | .run count => b.drive "run" (Computer.run count) fun n => .number n
  | .fetch => b.ask "fetch" fun c => .decoded (Computer.fetched c.system.machine)
  | .count => b.ask "instruction_count" fun c => .number c.executed
  | .pressKey code => b.drive "press_key" (Computer.pressKey code) fun _ => .nothing
  | .releaseKey => b.drive "release_key" Computer.releaseKey fun _ => .nothing
  | .loadProgram image => b.drive "load_program" (Computer.loadProgram image) fun _ => .nothing
  | .resetComputer => b.drive "reset" Computer.reset fun _ => .nothing
  | .isRunning => b.ask "is_running" fun c => .truth c.runner.isRunning
  | .stop => b.stopRunner
  | .freeRun limit interference => b.freeRun limit interference

end Bench

structure StepReport where
  result : Except CommandFault Reply
  difference : Difference
  /-- The state after the command. -/
  after : Snapshot
  events : List Event
  notes : List Note
  log : List LogRecord

namespace Bench

/-- A command is carried out and reported. -/
def step (b : Bench) (c : Command) : StepReport × Bench :=
  let b := b.changeCast fun cast => { cast with seen := [], notes := [] }
  let b := b.changeBus fun bus => { bus with log := [] }
  let before := b.machine.snapshot
  let (result, b) := b.carryOut c
  let after := b.machine.snapshot
  (⟨result, .between before after, after, b.cast.seen.reverse, b.cast.notes.reverse,
    b.system.bus.log.reverse⟩, b)

/-- Commands are carried out in order, each with its report. -/
def session (b : Bench) : List Command → List StepReport × Bench
  | [] => ([], b)
  | c :: rest =>
    let (report, b) := b.step c
    let (reports, b) := b.session rest
    (report :: reports, b)

end Bench

/-- What a bench is set up with. -/
structure BenchPlan where
  /-- The settings of a computer, if there is to be one: given or standard. -/
  computer : Option (Except Settings.Fault Settings)
  /-- The seed of the machine, if one is given. -/
  seed : Option Json
  /-- What the monitor asks for, if it is to record. -/
  monitor : Option EventFilter

/-- Why a bench cannot be set up. -/
inductive SetupFault where
  | settings (cause : Settings.Fault)
  | seed (cause : SeedFault)
  | computer (cause : BuildFault)

/-- A system at power-on, with the monitor subscribed if it is to record. -/
def BenchPlan.system (plan : BenchPlan) (generator : Twister) : System BenchMemory where
  machine := .powerOn generator
  bus := {
    subscriptions := match plan.monitor with
      | some filter => [⟨.monitor, filter⟩]
      | none => []
    observers := .ofMemory .empty
    log := [] }

/-- The value that seeds the machine. One that is not in a computer has zero in the place of
every seed that counts as false; one that is in a computer may go without a seed. -/
def BenchPlan.seedValue (plan : BenchPlan) : Json :=
  let given := plan.seed.getD .null
  if plan.computer.isNone && !given.isTruthy then .int 0 else given

/-- The bench of a plan. The settings are looked at first, then the machine's seed. -/
def BenchPlan.setUp (plan : BenchPlan) : Except SetupFault Bench :=
  let withSubject (subject : Subject) : Bench := ⟨subject, none, none, .machine, []⟩
  match plan.computer, plan.seedValue.seed with
  | some (.error cause), _ => .error (.settings cause)
  | _, .error cause => .error (.seed cause)
  | none, .ok seed => .ok (withSubject (.bare (plan.system (.ofSeed? seed))))
  | some (.ok settings), .ok seed =>
    match Computer.ofSettings settings (plan.system (.ofSeed? seed)) with
    | .error cause => .error (.computer cause)
    | .ok computer => .ok (withSubject (.driven computer))

end Chip8

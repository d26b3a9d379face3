import Chip8.Proofs.HostInput
import Chip8.Proofs.Silence
import Chip8.Proofs.StackFault
import Chip8.Proofs.TimerLaw

/-!
# What a run tells

The events of a step come in a fixed order.

* `Timers.events` is what a tick tells. `course_wholeStep` puts the parts of a step together, and
  `bus_of_calm` says that the observers are told just that.
* `inOrder_turn` is the order within a turn: what an instruction tells stands between the events of
  the clock (`silent_execute`). `trace_of_run` adds up the turns of a run.
-/

namespace Chip8

namespace Timers

/-- What the timers tell once an instruction has left a machine. -/
def events (t : Timers) (m : Machine) : List Event :=
  if (t.count m).cycle.value = 0 ∧ t.enabled then
    (if m.dt ≠ 0 then [.register .dt] else []) ++ (if m.st ≠ 0 then [.register .st] else [])
  else []

theorem events_advance (t : Timers) (m : Machine) : (t.advance.course m).events = t.events m := by
  rw [course_advance, events]
  by_cases ticks : (t.count m).cycle.value = 0 ∧ t.enabled
  · rw [if_pos ticks, course_tick_ticks ticks, Course.events, List.filterMap_append,
      apply_ite (List.filterMap _), apply_ite (List.filterMap _)]
    rfl
  · rw [if_neg ticks, course_tick_rests ticks]
    rfl

end Timers

namespace Turn

variable {ω : Type}

/-- The course of a turn in which no observer fails. -/
def course (t : Turn ω) : Course Decoded := (Computer.wholeStep t.before.timers).course t.machine

/-- What the instruction of a turn tells. -/
def ownEvents (t : Turn ω) : List Event := ((System.execute t.decoded).course t.machine).events

/-- The timers tick at the end of the turn, if it comes to its end. -/
def Ticks (t : Turn ω) : Prop :=
  t.before.timers.enabled ∧ (t.machine.cycle.value + 1) % (t.before.timers.period : Int) = 0

instance (t : Turn ω) : Decidable t.Ticks := inferInstanceAs (Decidable (_ ∧ _))

/-- The events of the tick: one for each timer that is not at zero. -/
def tickEvents (t : Turn ω) : List Event :=
  if t.Ticks then
    (if t.loaded .delay ≠ 0 then [.register .dt] else [])
      ++ (if t.loaded .sound ≠ 0 then [.register .st] else [])
  else []

theorem not_mem_ownEvents (t : Turn ω) {e : Event} (h : e.OfClock) : e ∉ t.ownEvents :=
  (System.silent_execute h t.decoded).not_mem_events t.machine

theorem not_mem_tickEvents {t : Turn ω} {e : Event} (h : e.OfClock) : e ∉ t.tickEvents := by
  intro he
  simp only [tickEvents, List.mem_ite_nil_right, List.mem_append, List.mem_singleton] at he
  obtain ⟨-, ⟨-, same⟩ | ⟨-, same⟩⟩ := he
  · exact absurd same.symm (h.ne nofun nofun)
  · exact absurd same.symm (h.ne nofun nofun)

/-- The tick comes after the instruction, so it finds the timers as that has loaded them. -/
theorem events_goTo {t : Turn ω} {m : Machine} {target target' : Option Nat}
    (h : (System.execute t.decoded).Yields t.machine target m) :
    t.before.timers.events (m.goTo target') = t.tickEvents := by
  have loaded (w : Timer) : w.read (m.goTo target') = t.loaded w :=
    (w.read_goTo m target').trans (System.read_of_execute w h)
  have dt : (m.goTo target').dt = t.loaded .delay := loaded .delay
  have st : (m.goTo target').st = t.loaded .sound := loaded .sound
  have unwritten : ¬ t.decoded.Writes t.machine .cycle := fun ⟨_, _, writes⟩ => writes
  have kept : Place.cycle.read m = Place.cycle.read t.machine :=
    (System.leavesAt_execute unwritten).of_yields h
  have cycle : (m.goTo target').cycle = t.machine.cycle := kept
  simp only [Timers.events, Timers.count, tickEvents, dt, st, cycle, Ticks, and_comm]
  rfl

end Turn

namespace Computer

open Chip8.Action

theorem course_instruction {m m' : Machine} {l : List Moment} {target : Option Nat}
    (h : (System.execute (fetched m)).course m = ⟨l, .ok target, m'⟩) :
    instruction.course m = ⟨⟨m, .event .step⟩ ::
      (l ++ [⟨m'.goTo target, .event (.register .pc)⟩]), .ok (fetched m), m'.goTo target⟩ := by
  simp only [instruction, course_bind, System.course_notify, System.course_look,
    Course.andThen_ok, Course.behind_nil, h, System.course_setPc, course_pure, Course.behind_mk]
  rfl

/-- An instruction is refused before it does anything, or comes to its end. -/
theorem course_execute_cases (m : Machine) :
    (∃ cause, (System.execute (fetched m)).course m = ⟨[], .error cause, m⟩) ∨
      ∃ l target m', (System.execute (fetched m)).course m = ⟨l, .ok target, m'⟩ := by
  by_cases overflows : m.Overflows
  · exact Or.inl ⟨_, System.course_execute_call_full overflows.1 overflows.2⟩
  · by_cases underflows : m.Underflows
    · have fetched_eq : fetched m = .ofOpcode 0x00EE := congrArg _ underflows.1
      exact Or.inl ⟨_, fetched_eq ▸ System.course_execute_return_empty underflows.2⟩
    · exact Or.inr (System.course_execute_ok (m.readWord m.pc.toNat)
        (fun call => Nat.not_le.mp fun full => overflows ⟨call, full⟩)
        fun ret empty => underflows ⟨ret, empty⟩)

theorem course_wholeStep_fault (t : Timers) {m : Machine} {cause : Fault}
    (h : (System.execute (fetched m)).course m = ⟨[], .error cause, m⟩) :
    (wholeStep t).course m = ⟨[⟨m, .event .step⟩], .error cause, m⟩ := by
  rw [wholeStep, course_bind, course_instruction_fault h, Course.andThen_error]

/-- A whole step that comes to its end: the announcement, what the instruction tells, PC, and what
the timers tell. -/
theorem course_wholeStep (t : Timers) {m m' : Machine} {l : List Moment} {target : Option Nat}
    (h : (System.execute (fetched m)).course m = ⟨l, .ok target, m'⟩) :
    ((wholeStep t).course m).result = .ok (fetched m) ∧
      ((wholeStep t).course m).events =
        .step :: ((System.execute (fetched m)).course m).events ++
          .register .pc :: t.events (m'.goTo target) := by
  have advanced := t.events_advance (m'.goTo target)
  obtain ⟨l', b, m'', advance⟩ := (succeeds_advance t).ok (m'.goTo target)
  rw [advance] at advanced
  simp only [wholeStep, course_bind, course_instruction h, Course.andThen_ok, advance, course_pure,
    Course.behind_mk, true_and, h]
  rw [← advanced]
  simp only [Course.events, List.cons_append, List.filterMap_cons, List.filterMap_append,
    List.nil_append, List.append_nil, List.append_assoc]

variable {ω : Type} [Observers ω]

/-- A turn is refused and does nothing but announce itself, or it comes to its end. -/
theorem turn_cases (calm : Observers.Calm ω) (c : Computer ω) :
    (∃ cause, c.turn = ⟨c, .error cause, c.announced⟩ ∧
      c.turn.course = ⟨[⟨c.system.machine, .event .step⟩], .error cause, c.system.machine⟩) ∨
    (c.turn.Succeeds ∧ ∃ l target m,
      (System.execute c.turn.decoded).course c.turn.machine = ⟨l, .ok target, m⟩) := by
  rcases course_execute_cases c.system.machine with ⟨cause, fault⟩ | ⟨l, target, m, ok⟩
  · refine Or.inl ⟨cause, ?_, course_wholeStep_fault c.timers fault⟩
    rw [turn, perform_step_fault calm fault]
  · have run := (System.run_of_calm calm (wholeStep c.timers) c.system).1
    rw [c.perform_step_eq_run] at run
    exact Or.inr ⟨⟨_, run.trans (course_wholeStep c.timers ok).1⟩, l, target, m, ok⟩

/-- The observers hear the course of a turn, and its events come in order. -/
structure InOrder (t : Turn ω) : Prop where
  heard : t.after.system.bus = t.course.moments.foldl Bus.hear t.before.system.bus
  own : ∀ e ∈ t.ownEvents, e ≠ .step ∧ e ≠ .register .pc
  succeeds : t.Succeeds → t.events = .step :: t.ownEvents ++ .register .pc :: t.tickEvents
  fails : ∀ cause, t.result = .error cause → t.events = [.step]

/-- **The events of a step** are its announcement, those of the instruction, PC, and the tick; a
step that fails is announced and that is all. -/
theorem inOrder_turn (calm : Observers.Calm ω) (c : Computer ω) : InOrder c.turn where
  heard := by
    have bus := System.bus_of_calm calm (wholeStep c.timers) c.system
    rw [c.perform_step_eq_run] at bus
    exact bus
  own e he := ⟨fun step => c.turn.not_mem_ownEvents (Or.inl step) he,
    fun pc => c.turn.not_mem_ownEvents (Or.inr pc) he⟩
  succeeds := by
    rintro ⟨d, hd⟩
    rcases turn_cases calm c with ⟨cause, refused, -⟩ | ⟨-, l, target, m, ok⟩
    · rw [refused] at hd
      cases hd
    · rw [← Turn.events_goTo ⟨l, ok⟩]
      exact (course_wholeStep c.timers ok).2
  fails := by
    intro cause h
    rcases turn_cases calm c with ⟨cause, -, course⟩ | ⟨⟨d, hd⟩, -⟩
    · exact congrArg Course.events course
    · cases hd.symm.trans h

/-- Each turn announces one step, and counts as many instructions as it tells of PC. -/
theorem count_events (calm : Observers.Calm ω) (c : Computer ω) :
    c.turn.events.count .step = 1 ∧
      c.turn.after.executed = c.executed + c.turn.events.count (.register .pc) := by
  have inOrder := inOrder_turn calm c
  rcases turn_cases calm c with ⟨cause, refused, -⟩ | ⟨ok, -⟩
  · rw [inOrder.fails cause (congrArg Turn.result refused), refused]
    exact ⟨rfl, rfl⟩
  · have silent {e : Event} (h : e.OfClock) : c.turn.ownEvents.count e = 0 ∧
        c.turn.tickEvents.count e = 0 :=
      ⟨List.count_eq_zero.mpr (c.turn.not_mem_ownEvents h),
        List.count_eq_zero.mpr (Turn.not_mem_tickEvents h)⟩
    obtain ⟨-, -, counted, -⟩ := step_eq_ok (perform_step_of_succeeds ok)
    obtain ⟨steps, steps'⟩ := silent (Or.inl rfl)
    obtain ⟨pcs, pcs'⟩ := silent (Or.inr rfl)
    rw [inOrder.succeeds ok, counted]
    simp [steps, steps', pcs, pcs']

/-- **What a run tells**: each turn keeps the order, so the steps announced are the steps attempted,
and the events of PC are the instructions counted. -/
theorem trace_of_run (calm : Observers.Calm ω) (c : Computer ω) (xs : List Act) :
    let events := (c.turns xs).flatMap Turn.events
    (∀ t ∈ c.turns xs, InOrder t) ∧ events.count .step = (c.turns xs).length ∧
      (c.after xs).executed = c.executed + events.count (.register .pc) := by
  induction xs generalizing c with
  | nil => exact ⟨(fun _ h => nomatch h), rfl, rfl⟩
  | cons x rest ih =>
    cases x with
    | give x =>
      -- an input tells nothing, and counts as nothing
      obtain ⟨key, generator, hc⟩ := c.give_eq x
      have executed : (c.give x).executed = c.executed := by rw [hc]
      rw [← executed]
      exact ih (c.give x)
    | step =>
      obtain ⟨steps, executed⟩ := count_events calm c
      obtain ⟨turns, laterSteps, laterExecuted⟩ := ih c.turn.after
      refine ⟨List.forall_mem_cons.mpr ⟨inOrder_turn calm c, turns⟩, ?_, ?_⟩
      · simp only [Computer.turns, List.flatMap_cons, List.count_append, steps, laterSteps,
          List.length_cons]
        omega
      · simp only [Computer.turns, Computer.after, List.flatMap_cons, List.count_append,
          laterExecuted, executed]
        omega

/-- A computer that loads DT at a tick, and then returns without a call. -/
def astray : Computer Transcript :=
  let program : List UInt8 := [0x60, 0x05, 0xF0, 0x15, 0x00, 0xEE]
  let memory : Memory := Memory.store (Vector.replicate memorySize 0) 0 program
  let bus : Bus Transcript := ⟨[⟨.monitor, none⟩], ⟨[]⟩, []⟩
  { fresh bus with system := ⟨{ Machine.powerOn .unseeded with memory := memory }, bus⟩ }

/-- The tick finds DT loaded by the instruction before it; the third step is refused. -/
theorem trace_of_run_astray :
    let xs : List Act := [.step, .give .release, .step, .step]
    let turns := astray.turns xs
    turns.map Turn.events = [[.step, .register (.v 0), .register .pc],
        [.step, .register .dt, .register .pc, .register .dt], [.step]]
      ∧ (∀ t ∈ turns, InOrder t) ∧ (turns.flatMap Turn.events).count .step = 3
      ∧ (astray.after xs).executed = 2 := by
  intro xs turns
  have events : turns.map Turn.events = [[.step, .register (.v 0), .register .pc],
      [.step, .register .dt, .register .pc, .register .dt], [.step]] := by decide +kernel
  obtain ⟨inOrder, steps, executed⟩ := trace_of_run calm_transcript astray xs
  have all : (turns.flatMap Turn.events) = (turns.map Turn.events).flatten := rfl
  refine ⟨events, inOrder, steps, executed.trans ?_⟩
  rw [all, events]
  rfl

end Computer

end Chip8

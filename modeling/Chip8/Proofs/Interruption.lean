import Chip8.Bench.Cast
import Chip8.Proofs.TimerLaw

/-!
# Steps cut short

A step whose instruction does not come to its end, because of a stack fault or of an observer who
fails somewhere on the way.

* `read_of_failed` and `timer_of_failed`: what a failed instruction has done to a place that it does
  not write, and to a timer.
* `step_interrupted`: the fault goes to the caller, and PC, the cycle and the count of instructions
  are as they were before the step. So is a timer, unless the instruction loads it: a load is told
  when it is done, and stands.
-/

namespace Chip8

namespace System

variable {ω : Type} [Observers ω] {d : Decoded} {s s' : System ω} {cause : Fault}

theorem read_of_failed {p : Place} (h : run (execute d) s = (.error cause, s'))
    (unwritten : ¬ d.Writes s.machine p) : p.read s'.machine = p.read s.machine := by
  have kept := run_error_of_ends (leavesAt_execute unwritten) (congrArg Prod.fst h)
  rwa [h] at kept

theorem timer_of_failed (h : run (execute d) s = (.error cause, s')) (w : Timer) :
    w.read s'.machine = w.after d s.machine := by
  have loaded := run_error_of_ends (ends_execute_timer w d s.machine) (congrArg Prod.fst h)
  rwa [h] at loaded

end System

namespace Computer

variable {ω : Type} [Observers ω]

theorem perform_step_of_failed {c : Computer ω} {s s' : System ω} {cause : Fault}
    (told : System.run (System.notify .step) c.system = (.ok (), s))
    (failed : System.run (System.execute (fetched s.machine)) s = (.error cause, s')) :
    perform step c = (.error cause, { c with system := s' }) := by
  have looked : System.run System.look s = (.ok s.machine, s) := rfl
  have stopped : System.run instruction c.system = (.error cause, s') := by
    simp only [instruction, System.run_bind, told, looked, failed]
  rw [perform_step, stopped]

/-- **A step cut short** by its instruction fails with the fault. It has done nothing to PC, the
cycle and the count, and nothing to the timers but to load one that the instruction loads. -/
theorem step_interrupted (c : Computer ω) {s s' : System ω} {cause : Fault}
    (told : System.run (System.notify .step) c.system = (.ok (), s))
    (failed : System.run (System.execute (fetched c.system.machine)) s = (.error cause, s')) :
    let m := c.system.machine
    let d := fetched m
    perform step c = (.error cause, { c with system := s' })
      ∧ s'.machine.pc = m.pc ∧ s'.machine.cycle = m.cycle
      ∧ ∀ w : Timer, w.read s'.machine =
        if d.operation? = some w.load then m.v.get d.operands.x else w.read m := by
  intro m d
  have same : s.machine = m :=
    ((System.yields_of_run told).unique ⟨_, System.course_notify _ m⟩).2
  refine ⟨perform_step_of_failed told (same ▸ failed), ?_, ?_, fun w => ?_⟩
  · exact same ▸ System.read_of_failed (p := .pc) failed fun ⟨_, _, writes⟩ => writes
  · exact same ▸ System.read_of_failed (p := .cycle) failed fun ⟨_, _, writes⟩ => writes
  · exact same ▸ System.timer_of_failed failed w

/-- A computer about to load 5 into DT, with an observer who fails at the first register. -/
def startled : Computer Cast :=
  let critic := Text.ofString "critic"
  let bus : Bus Cast :=
    ⟨[⟨.client critic, some [.register]⟩], ⟨[(critic, ⟨.fail, 1, [], 0, []⟩)], [], []⟩, []⟩
  let memory : Memory := Memory.store (Vector.replicate memorySize 0) 0 [0xF0, 0x15]
  let v : Vector UInt8 registerCount := Vector.replicate registerCount 5
  { fresh bus with system := ⟨{ Machine.powerOn .unseeded with memory := memory, v := v }, bus⟩ }

/-- The load of DT fails where it is told, and stands. -/
theorem step_interrupted_startled :
    let after := (perform step startled).2
    (perform step startled).1 = .error (.observer (Text.ofString "critic"))
      ∧ after.executed = startled.executed
      ∧ after.system.machine.pc = startled.system.machine.pc
      ∧ after.system.machine.cycle = startled.system.machine.cycle
      ∧ startled.system.machine.dt = 0 ∧ after.system.machine.dt = 5
      ∧ after.system.machine.st = startled.system.machine.st := by
  intro after
  let announced := System.run (System.notify .step) startled.system
  let outcome := System.run (System.execute (fetched startled.system.machine)) announced.2
  have loads : (fetched startled.system.machine).operation? = some .setDelay := by decide +kernel
  have told : announced = (.ok (), announced.2) := Prod.fst_eq_iff.mp (by decide +kernel)
  have failed : outcome = (.error (.observer (Text.ofString "critic")), outcome.2) :=
    Prod.fst_eq_iff.mp (by decide +kernel)
  obtain ⟨step, pc, cycle, timers⟩ := step_interrupted startled told failed
  have five : startled.system.machine.v.get (fetched startled.system.machine).operands.x = 5 := by
    decide +kernel
  have dt := (timers .delay).trans ((if_pos loads).trans five)
  have st := (timers .sound).trans (if_neg (by rw [loads]; decide))
  simp only [after, step]
  exact ⟨trivial, trivial, pc, cycle, by decide +kernel, dt, st⟩

end Computer

end Chip8

import Chip8.Proofs.Calm
import Chip8.Proofs.Decoding
import Chip8.Proofs.Success

/-!
# Stack faults

The only faults of a step, where no observer fails, are a call on a full stack and a return on an
empty one, and they come before anything was done.

* `Machine.Overflows` and `Machine.Underflows`: the instruction at PC is such a call or return.
* `course_instruction_fault`: the course of such an instruction is the announcement and then the
  fault. `course_instruction_ok`: every other instruction comes to its end.
-/

namespace Chip8

namespace Machine

/-- The instruction at PC is a call, and the stack is full. -/
def Overflows (m : Machine) : Prop :=
  (m.readWord m.pc.toNat).toNat / 4096 = 2 ∧ stackSize ≤ m.sp.toNat

/-- The instruction at PC is a return, and the stack is empty. -/
def Underflows (m : Machine) : Prop := m.readWord m.pc.toNat = 0x00EE ∧ m.sp = 0

end Machine

namespace System

open Chip8.Action

theorem course_execute_call_full {m : Machine} {w : UInt16} (call : w.toNat / 4096 = 2)
    (full : stackSize ≤ m.sp.toNat) :
    (execute (.ofOpcode w)).course m = ⟨[], .error (.stackOverflow m.sp), m⟩ := by
  have enc : Operation.call.Encoded w.toNat := call
  rw [execute_of_encoded enc]
  simp only [perform, course_bind, course_look, Course.andThen_ok, course_pushStack_full full,
    Course.andThen_error, Course.behind_mk, List.nil_append]

theorem course_execute_return_empty {m : Machine} (empty : m.sp = 0) :
    (execute (.ofOpcode 0x00EE)).course m = ⟨[], .error (.stackUnderflow m.sp), m⟩ := by
  have enc : Operation.return.Encoded (0x00EE : UInt16).toNat := rfl
  rw [execute_of_encoded enc]
  simp only [perform, course_bind, course_look, Course.andThen_ok, course_popStack_empty empty,
    Course.andThen_error, Course.behind_mk, List.nil_append]

/-- An instruction comes to its end, unless it is a call on a full stack or a return on an
empty one. -/
theorem course_execute_ok {m : Machine} (w : UInt16)
    (call : w.toNat / 4096 = 2 → m.sp.toNat < stackSize) (ret : w = 0x00EE → m.sp ≠ 0) :
    ∃ l target m', (execute (.ofOpcode w)).course m = ⟨l, .ok target, m'⟩ := by
  cases hop : (Decoded.ofOpcode w).operation? with
  | none =>
    have unknown : (Decoded.ofOpcode w).row? = none := Option.map_eq_none_iff.mp hop
    unfold execute
    rw [unknown]
    exact (Succeeds.bind .look fun _ => .bind (.report _) fun _ => .pure _).ok m
  | some op =>
    have enc := (operation_eq_some_iff w op).mp hop
    rw [execute_of_encoded enc]
    by_cases hcall : op = .call
    · subst hcall
      have pushed := course_pushStack (call enc) (m.nextPc : Nat)
      simp only [perform, course_bind, course_look, Course.andThen_ok, pushed, course_pure,
        Course.behind_mk]
      exact ⟨_, _, _, rfl⟩
    · by_cases hret : op = .return
      · subst hret
        have popped := course_popStack (ret (UInt16.toNat_inj.mp enc))
        simp only [perform, course_bind, course_look, Course.andThen_ok, popped, course_pure,
          Course.behind_mk]
        exact ⟨_, _, _, rfl⟩
      · exact (succeeds_perform hcall hret _).ok m

end System

namespace Computer

open Chip8.Action

theorem course_instruction_fault {m : Machine} {cause : Fault}
    (h : (System.execute (fetched m)).course m = ⟨[], .error cause, m⟩) :
    instruction.course m = ⟨[⟨m, .event .step⟩], .error cause, m⟩ := by
  simp only [instruction, course_bind, System.course_notify, System.course_look,
    Course.andThen_ok, Course.behind_nil, h, Course.andThen_error, Course.behind_mk,
    List.append_nil]

theorem course_instruction_ok {m : Machine} (overflows : ¬ m.Overflows)
    (underflows : ¬ m.Underflows) : ∃ l d m', instruction.course m = ⟨l, .ok d, m'⟩ := by
  obtain ⟨l, target, m', h⟩ := System.course_execute_ok (m.readWord m.pc.toNat)
    (fun call => Nat.not_le.mp fun full => overflows ⟨call, full⟩)
    (fun ret empty => underflows ⟨ret, empty⟩)
  have h' : (System.execute (fetched m)).course m = ⟨l, .ok target, m'⟩ := h
  simp only [instruction, course_bind, System.course_notify, System.course_look,
    Course.andThen_ok, Course.behind_nil, h', System.course_setPc, course_pure, Course.behind_mk]
  exact ⟨_, _, _, rfl⟩

theorem succeeds_advance (t : Timers) : t.advance.Succeeds :=
  Timers.advance_of_parts System.writers_succeed.toCompositional System.succeeds_setDt
    System.succeeds_setSt (.change _)

variable {ω : Type} [Observers ω]

/-- The computer after the announcement of a step. -/
def announced (c : Computer ω) : Computer ω :=
  { c with system := ⟨c.system.machine, (c.system.bus.emit c.system.machine .step).2⟩ }

theorem perform_step_fault (calm : Observers.Calm ω) {c : Computer ω} {cause : Fault}
    (h : (System.execute (fetched c.system.machine)).course c.system.machine
      = ⟨[], .error cause, c.system.machine⟩) :
    perform step c = (.error cause, c.announced) := by
  have run : System.run instruction c.system = (.error cause, c.announced.system) :=
    System.run_of_course calm (course_instruction_fault h)
  rw [perform_step, run]
  rfl

theorem perform_step_ok (calm : Observers.Calm ω) {c : Computer ω}
    (overflows : ¬ c.system.machine.Overflows) (underflows : ¬ c.system.machine.Underflows) :
    ∃ d, (perform step c).1 = .ok d := by
  obtain ⟨l, d, m', hi⟩ := course_instruction_ok overflows underflows
  have executed := (System.run_of_calm calm instruction c.system).1
  rw [hi] at executed
  rw [perform_step]
  cases hr : System.run instruction c.system with
  | mk result s =>
    rw [hr] at executed
    obtain rfl : result = .ok d := executed
    obtain ⟨l', b, m'', ha⟩ := (succeeds_advance c.timers).ok s.machine
    have advanced := (System.run_of_calm calm c.timers.advance s).1
    rw [ha] at advanced
    dsimp only
    cases hr' : System.run c.timers.advance s with
    | mk result' s' =>
      rw [hr'] at advanced
      obtain rfl : result' = .ok b := advanced
      exact ⟨d, rfl⟩

/-- **Stack faults are the only faults of a step, and such a step does nothing.** The observers do
what they can ask for, which is not to write the machine, and no notification fails. -/
theorem step_faults (calm : Observers.Calm ω) (c : Computer ω) :
    let m := c.system.machine
    let result := (perform step c).1
    (result = .error (.stackOverflow m.sp) ↔ m.Overflows)
      ∧ (result = .error (.stackUnderflow m.sp) ↔ m.Underflows)
      ∧ (¬ m.Overflows → ¬ m.Underflows → ∃ d, result = .ok d)
      ∧ ∀ cause, result = .error cause → (perform step c).2 = c.announced := by
  have apart : c.system.machine.Overflows → ¬ c.system.machine.Underflows := by
    intro ⟨call, _⟩ ⟨ret, _⟩
    rw [ret] at call
    exact absurd call (by decide)
  by_cases overflows : c.system.machine.Overflows
  · have h := perform_step_fault calm (System.course_execute_call_full overflows.1 overflows.2)
    simp [h, overflows, apart overflows]
  · by_cases underflows : c.system.machine.Underflows
    · have fetched_eq : fetched c.system.machine = .ofOpcode 0x00EE := congrArg _ underflows.1
      have h := perform_step_fault calm
        (fetched_eq ▸ System.course_execute_return_empty underflows.2)
      simp [h, overflows, underflows]
    · obtain ⟨d, h⟩ := perform_step_ok calm overflows underflows
      simp [h, overflows, underflows]

/-- Memory full of calls, and a full stack. -/
def crowded : Computer Transcript :=
  let bus : Bus Transcript := ⟨[⟨.monitor, none⟩], ⟨[]⟩, []⟩
  let calls : Memory := Vector.replicate memorySize 0x22
  { fresh bus with system := ⟨{ Machine.powerOn .unseeded with memory := calls, sp := 32 }, bus⟩ }

theorem step_faults_crowded :
    (perform step crowded).1 = .error (.stackOverflow 32)
      ∧ (perform step crowded).2 = crowded.announced := by
  have byte (a : Int) : crowded.system.machine.readByte a = 0x22 := Vector.getElem_replicate _
  have word : crowded.system.machine.readWord crowded.system.machine.pc.toNat = 0x2222 := by
    rw [Machine.readWord, byte, byte]
    rfl
  have overflows : crowded.system.machine.Overflows := ⟨by rw [word]; rfl, Nat.le_refl 32⟩
  obtain ⟨overflow, _, _, nothing⟩ := step_faults calm_transcript crowded
  exact ⟨overflow.mpr overflows, nothing _ (overflow.mpr overflows)⟩

end Computer

end Chip8

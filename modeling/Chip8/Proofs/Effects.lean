import Chip8.Proofs.CallReturn

/-!
# What an instruction changes

All that an opcode can do to a machine, by its digits.

* `Place.ext`: a machine is what its places hold, so that a frame leaves nothing out.
* `execute_frame`: whatever comes of an instruction, it changes no place but those that
  `Operation.Writes` gives to the operation that its opcode encodes. Calls and returns move SP by
  one slot. An opcode that encodes nothing leaves a record in the log, and that is all.
-/

namespace Chip8

/-- A machine is what its places hold. -/
theorem Place.ext {m m' : Machine} (h : ∀ p : Place, p.read m = p.read m') : m = m' := by
  have memory : m.memory = m'.memory := Vector.ext fun a ha => h (.byte ⟨a, ha⟩)
  have v : m.v = m'.v := Vector.ext fun k hk => h (.v ⟨k, hk⟩)
  have i : m.i = m'.i := h .i
  have pc : m.pc = m'.pc := h .pc
  have sp : m.sp = m'.sp := h .sp
  have dt : m.dt = m'.dt := h .dt
  have st : m.st = m'.st := h .st
  have key : m.key = m'.key := h .key
  have cycle : m.cycle = m'.cycle := h .cycle
  have generator : m.generator = m'.generator := h .generator
  cases m
  cases m'
  simp_all only

/-- The places that an instruction writes, by the digits of its opcode. -/
theorem Decoded.writes_ofOpcode_iff {w : UInt16} {m : Machine} {p : Place} :
    (Decoded.ofOpcode w).Writes m p ↔
      ∃ op : Operation, op.Encoded w.toNat ∧ op.Writes (.ofOpcode w) m p := by
  simp only [Decoded.Writes, operation_eq_some_iff]
  rfl

namespace System

open Chip8.Action

variable {ω : Type} [Observers ω]

/-- An unknown opcode is noted and passed over. -/
theorem run_execute_unknown {d : Decoded} (unknown : d.row? = none) (s : System ω) :
    run (execute d) s =
      (.ok none, { s with bus := s.bus.report (.unknownOpcode d.opcode s.machine.pc) }) := by
  unfold execute
  rw [unknown]
  rfl

/-- **An instruction changes only its own places**, with a result or with a fault. What it tells
goes to observers who cannot write the machine, so they have no places to add. -/
theorem execute_frame (s : System ω) (word : Int) :
    let w := UInt16.ofInt word
    let m := s.machine
    let outcome := run (execute (.ofWord word)) s
    let m' := outcome.2.machine
    (∀ p : Place, (∀ op : Operation, op.Encoded w.toNat → ¬ op.Writes (.ofOpcode w) m p) →
      p.read m' = p.read m)
    ∧ (∀ target, outcome.1 = .ok target →
      (Operation.call.Encoded w.toNat → m'.sp.toNat = m.sp.toNat + 2)
      ∧ (Operation.return.Encoded w.toNat → m'.sp = m.sp - 2))
    ∧ ((∀ op : Operation, ¬ op.Encoded w.toNat) →
      outcome = (.ok none, { s with bus := s.bus.report (.unknownOpcode w m.pc) })) := by
  intro w m outcome m'
  refine ⟨fun p unwritten => ?_, fun target ok => ?_, fun unknown => ?_⟩
  · have left : (execute (.ofOpcode w)).LeavesAt p.read m := by
      refine leavesAt_execute fun writes => ?_
      obtain ⟨op, encoded, written⟩ := Decoded.writes_ofOpcode_iff.mp writes
      exact unwritten op encoded written
    exact run_of_ends left
  · have yields : (execute (.ofOpcode w)).Yields m target m' := yields_of_run (Prod.ext ok rfl)
    refine ⟨fun call => ?_, fun ret => ?_⟩
    · rw [execute_of_encoded call] at yields
      exact (yields_call yields).2.1
    · rw [execute_of_encoded ret] at yields
      exact (yields_return yields).2.1
  · exact run_execute_unknown (Decoded.row_eq_none_of_unknown unknown) s

/-- A system in which I points at the last byte of memory. -/
def brink : System Transcript :=
  ⟨{ Machine.powerOn .unseeded with i := 0xFFF }, ⟨[⟨.monitor, none⟩], ⟨[]⟩, []⟩⟩

/-- Digits stored around the end of memory spare the byte behind them, a call raises SP, and no
observer hears of an opcode without meaning. -/
theorem execute_frame_brink :
    let digits := run (execute (.ofWord 0xF033)) brink
    let call := run (execute (.ofWord 0x2300)) brink
    Place.read (.byte (cell 2)) digits.2.machine = Place.read (.byte (cell 2)) brink.machine
      ∧ call.2.machine.sp.toNat = 2
      ∧ run (execute (.ofWord 0xE000)) brink =
        (.ok none, { brink with bus := brink.bus.report (.unknownOpcode 0xE000 0) }) := by
  intro digits call
  have spared : ∀ op : Operation, op.Encoded (UInt16.ofInt 0xF033).toNat →
      ¬ op.Writes (.ofOpcode (UInt16.ofInt 0xF033)) brink.machine (.byte (cell 2)) := by
    intro op encoded writes
    have stores : (Decoded.ofOpcode (UInt16.ofInt 0xF033)).operation? = some .storeDecimal := rfl
    obtain rfl : op = .storeDecimal :=
      Option.some.inj (((operation_eq_some_iff _ op).mpr encoded).symm.trans stores)
    obtain ⟨k, hk, place⟩ := writes
    have apart : ∀ k < 3, cell 2 ≠ cell (brink.machine.i.toNat + k : Nat) := by decide
    exact apart k hk place
  have unknown : ∀ op : Operation, ¬ op.Encoded (UInt16.ofInt 0xE000).toNat := by
    intro op encoded
    have meaningless : (Decoded.ofOpcode (UInt16.ofInt 0xE000)).operation? = none := rfl
    exact nomatch meaningless.symm.trans ((operation_eq_some_iff _ op).mpr encoded)
  have encoded : Operation.call.Encoded (UInt16.ofInt 0x2300).toNat := by
    simp only [Operation.Encoded]
    decide
  have called : call.1 = .ok (some 0x300) := by decide +kernel
  obtain ⟨frame, -, -⟩ := execute_frame brink 0xF033
  obtain ⟨-, calls, -⟩ := execute_frame brink 0x2300
  obtain ⟨-, -, passed⟩ := execute_frame brink 0xE000
  have raised := (calls _ called).1 encoded
  exact ⟨frame (.byte (cell 2)) spared, raised, passed unknown⟩

end System

end Chip8

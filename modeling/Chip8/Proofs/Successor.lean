import Chip8.Proofs.CallReturn
import Chip8.Proofs.StackFault

/-!
# Where PC goes next

The PC after a step, from the machine before it.

* `Operation.successor` is the address at which each operation goes on. `target_of_perform` finds it
  in what the operation does, and `pc_of_step` in a step.
* `Opposed` opcodes skip on one condition and on its opposite: in every state one of them skips.
* `step_successor` is both together. `clearScreen_successor` shows that not every opcode that starts
  with zero is a jump.
-/

namespace Chip8

open Chip8.Action

/-- The address after the next instruction on a condition, else that of the next one. -/
def Machine.skipping (m : Machine) (condition : Bool) : Nat :=
  if condition then m.pc.toNat + 4 else m.pc.toNat + 2

/-- The address at which an operation goes on, not reduced. -/
def Operation.successor (op : Operation) (o : Operands) (m : Machine) : Nat :=
  let vx := m.v.get o.x
  let vy := m.v.get o.y
  match op with
  | .return => (m.readWord (stackStart + m.sp.toNat - 2)).toNat
  | .routine | .jump | .call => o.nnn
  | .jumpFrom => (m.v.get baseRegister).toNat + o.nnn
  | .skipIfByte => m.skipping (vx.toNat == o.nn)
  | .skipUnlessByte => m.skipping (vx.toNat != o.nn)
  | .skipIfEqual => m.skipping (vx == vy)
  | .skipUnlessEqual => m.skipping (vx != vy)
  | .skipIfKey => m.skipping (m.key.any fun k => k.val == vx.toNat)
  | .skipUnlessKey => m.skipping !(m.key.any fun k => k.val == vx.toNat)
  | .awaitKey => if m.key.isNone then m.pc.toNat else m.pc.toNat + 2
  | _ => m.pc.toNat + 2

namespace Action

variable {α β : Type}

/-- Whenever the action ends with a result, it is this one. -/
structure Gives (a : Action α) (y : α) : Prop where
  result : ∀ {m m' : Machine} {x : α}, a.Yields m x m' → x = y

theorem Gives.pure (y : α) : (Pure.pure y : Action α).Gives y :=
  ⟨fun h => (h.unique ⟨_, course_pure _ _⟩).1⟩

theorem Gives.bind {a : Action α} {f : α → Action β} {y : β} (h : ∀ x, (f x).Gives y) :
    (a >>= f).Gives y :=
  ⟨fun hy => let ⟨x, _, _, later⟩ := hy.of_bind; (h x).result later⟩

end Action

namespace System

theorem getD_skipIf {condition : Machine → Bool} {m m' : Machine} {target : Option Nat}
    (h : (skipIf condition).Yields m target m') :
    target.getD m.nextPc = m.skipping (condition m) := by
  obtain ⟨rfl, -⟩ := (h.of_bind_yields ⟨_, course_look m⟩).unique ⟨_, course_pure _ _⟩
  unfold Machine.skipping
  split <;> rfl

/-- What an operation gives for PC. -/
theorem target_of_perform {op : Operation} {o : Operands} {m m' : Machine} {target : Option Nat}
    (proper : m.StackProper) (h : (perform op o).Yields m target m') :
    target.getD m.nextPc = op.successor o m := by
  have body := h.of_bind_yields ⟨_, course_look m⟩
  have next {α : Type} {a : Action α} {f : α → Action (Option Nat)}
      (h : (a >>= f).Yields m target m') (none : ∀ x, (f x).Gives none) :
      target.getD m.nextPc = m.pc.toNat + 2 := by
    rw [(Gives.bind none).result h]
    rfl
  cases op with
  | «return» =>
    obtain ⟨used, -, rfl, -⟩ := yields_return h
    have below := toNat_sub_two proper.1 used
    have slot : ((stackStart + (m.sp - 2).toNat : Nat) : Int) = stackStart + m.sp.toNat - 2 := by
      omega
    rw [slot]
    rfl
  | call =>
    rw [(Gives.bind fun _ => .pure _).result body]
    rfl
  | routine | jump | jumpFrom =>
    obtain ⟨rfl, -⟩ := body.unique ⟨_, course_pure _ _⟩
    rfl
  | skipIfByte | skipUnlessByte | skipIfEqual | skipUnlessEqual | skipIfKey | skipUnlessKey =>
    exact getD_skipIf body
  | awaitKey =>
    cases hk : m.key with
    | none =>
      rw [hk] at body
      obtain ⟨rfl, -⟩ := body.unique ⟨_, course_pure _ _⟩
      simp only [Operation.successor, hk]
      rfl
    | some k =>
      rw [hk] at body
      rw [next body fun _ => .pure _]
      simp only [Operation.successor, hk]
      rfl
  | add | subtract | subtractFrom | random =>
    exact next body fun _ => .bind fun _ => .pure _
  | shiftRight | shiftLeft =>
    exact next body fun _ => .bind fun _ => .bind fun _ => .pure _
  | _ => exact next body fun _ => .pure _

/-- What an opcode gives for PC; one without meaning gives nothing. -/
theorem target_of_execute {w : UInt16} {m m' : Machine} {target : Option Nat}
    (proper : m.StackProper) (h : (execute (.ofOpcode w)).Yields m target m') :
    (∀ op : Operation, op.Encoded w.toNat →
      target.getD m.nextPc = op.successor (.ofOpcode w) m) ∧
    ((∀ op : Operation, ¬ op.Encoded w.toNat) → target.getD m.nextPc = m.pc.toNat + 2) := by
  refine ⟨fun op encoded => ?_, fun unknown => ?_⟩
  · rw [execute_of_encoded encoded] at h
    exact target_of_perform proper h
  · unfold execute at h
    rw [Decoded.row_eq_none_of_unknown unknown] at h
    have reported := h.of_bind_yields ⟨_, course_look m⟩
    rw [(Gives.bind fun _ => .pure _).result reported]
    rfl

theorem operands_congr {w w' : UInt16} (h : w'.toNat % 4096 = w.toNat % 4096) :
    Operands.ofOpcode w' = Operands.ofOpcode w := by
  have x : w'.toNat / 256 % 16 = w.toNat / 256 % 16 := by omega
  have y : w'.toNat / 16 % 16 = w.toNat / 16 % 16 := by omega
  have n : w'.toNat % 16 = w.toNat % 16 := by omega
  have nn : w'.toNat % 256 = w.toNat % 256 := by omega
  simp only [Operands.ofOpcode, x, y, n, nn, h]

/-- Two opcodes with the same operands that skip on a condition and on its opposite. -/
inductive Opposed (w w' : UInt16) : Prop
  | byte (first : w.toNat / 4096 = 0x3) (second : w'.toNat = w.toNat + 0x1000)
  | register (first : w.toNat / 4096 = 0x5 ∧ w.toNat % 16 = 0)
      (second : w'.toNat = w.toNat + 0x4000)
  | key (first : w.toNat / 4096 = 0xE ∧ w.toNat % 256 = 0x9E)
      (second : w'.toNat = w.toNat + (0xA1 - 0x9E))

/-- One of two opposed opcodes skips. -/
theorem run_opposed {ω : Type} [Observers ω] {w w' : UInt16} (h : Opposed w w') (s : System ω) :
    ∃ skips : Bool,
      run (execute (.ofOpcode w)) s = (.ok (if skips then some s.machine.skipPc else none), s) ∧
      run (execute (.ofOpcode w')) s =
        (.ok (if skips then none else some s.machine.skipPc), s) := by
  have swap (b : Bool) : (.ok (if !b then some s.machine.skipPc else none), s) =
      ((.ok (if b then none else some s.machine.skipPc), s) : Except Fault (Option Nat) × _) := by
    cases b <;> rfl
  let o := Operands.ofOpcode w
  cases h with
  | byte first second =>
    have e : Operation.skipIfByte.Encoded w.toNat := first
    have e' : Operation.skipUnlessByte.Encoded w'.toNat := by
      simp only [Operation.Encoded]
      omega
    have same : Operands.ofOpcode w' = o := operands_congr (by omega)
    rw [execute_of_encoded e, execute_of_encoded e', same]
    exact ⟨(s.machine.v.get o.x).toNat == o.nn, rfl, swap _⟩
  | register first second =>
    have e : Operation.skipIfEqual.Encoded w.toNat := first
    have e' : Operation.skipUnlessEqual.Encoded w'.toNat := by
      simp only [Operation.Encoded]
      omega
    have same : Operands.ofOpcode w' = o := operands_congr (by omega)
    rw [execute_of_encoded e, execute_of_encoded e', same]
    exact ⟨s.machine.v.get o.x == s.machine.v.get o.y, rfl, swap _⟩
  | key first second =>
    have e : Operation.skipIfKey.Encoded w.toNat := first
    have e' : Operation.skipUnlessKey.Encoded w'.toNat := by
      simp only [Operation.Encoded]
      omega
    have same : (Operands.ofOpcode w').x = o.x := by
      apply Fin.ext
      simp only [o, Operands.ofOpcode]
      omega
    let held (x : VIndex) : Bool := s.machine.key.any fun k => k.val == (s.machine.v.get x).toNat
    rw [execute_of_encoded e, execute_of_encoded e']
    refine ⟨held o.x, rfl, ?_⟩
    rw [← swap, ← same]
    rfl

end System

namespace Computer

variable {ω : Type} [Observers ω]

theorem pc_of_step {c c' : Computer ω} {d : Decoded} (h : perform step c = (.ok d, c')) :
    ∃ target m, (System.execute (fetched c.system.machine)).Yields c.system.machine target m ∧
      c'.system.machine.pc.toNat = target.getD c.system.machine.nextPc % 65536 := by
  obtain ⟨rfl, -, -, target, m, executed, after⟩ := step_eq_ok h
  refine ⟨target, m, executed, ?_⟩
  have unwritten : ¬ (fetched c.system.machine).Writes c.system.machine .pc :=
    fun ⟨_, _, writes⟩ => writes
  have kept : Place.pc.read m = Place.pc.read c.system.machine :=
    (System.leavesAt_execute unwritten).of_yields executed
  have next : m.nextPc = c.system.machine.nextPc := congrArg (fun pc : UInt16 => pc.toNat + 2) kept
  have pc : c'.system.machine.pc = (m.goTo target).pc := by
    rw [after]
    exact Place.read_advanced (p := .pc) nofun nofun nofun _ _
  rw [pc, Machine.goTo, next, toNat_wordOfInt]
  omega

/-- **Where PC goes next.** A step that succeeds leaves PC at the successor of its operation, or at
the next instruction if its opcode has no meaning; and one of two opposed opcodes skips. -/
theorem step_successor :
    (∀ (c c' : Computer ω) (d : Decoded), c.system.machine.StackProper →
      perform step c = (.ok d, c') →
      let m := c.system.machine
      let w := m.readWord m.pc.toNat
      let pc := c'.system.machine.pc.toNat
      (∀ op : Operation, op.Encoded w.toNat → pc = op.successor (.ofOpcode w) m % 65536) ∧
        ((∀ op : Operation, ¬ op.Encoded w.toNat) → pc = (m.pc.toNat + 2) % 65536)) ∧
    ∀ (s : System ω) (w w' : UInt16), System.Opposed w w' → ∃ skips : Bool,
      System.run (System.execute (.ofOpcode w)) s =
        (.ok (if skips then some s.machine.skipPc else none), s) ∧
      System.run (System.execute (.ofOpcode w')) s =
        (.ok (if skips then none else some s.machine.skipPc), s) := by
  refine ⟨fun c c' d proper h => ?_, fun s w w' opposed => System.run_opposed opposed s⟩
  obtain ⟨target, m, executed, pc⟩ := pc_of_step h
  obtain ⟨known, unknown⟩ := System.target_of_execute proper executed
  exact ⟨fun op encoded => pc.trans (congrArg (· % 65536) (known op encoded)),
    fun none => pc.trans (congrArg (· % 65536) (unknown none))⟩

/-- A computer with an opcode at PC. -/
def poised (high low : UInt8) : Computer Transcript :=
  let memory : Memory := Memory.store (Vector.replicate memorySize 0) 0 [high, low]
  let bus : Bus Transcript := ⟨[⟨.monitor, none⟩], ⟨[]⟩, []⟩
  { fresh bus with system := ⟨{ Machine.powerOn .unseeded with memory := memory }, bus⟩ }

theorem step_successor_poised :
    let c := poised 0x30 0x00
    c.system.machine.StackProper ∧ c.turn.Succeeds ∧ c.turn.after.system.machine.pc.toNat = 4 ∧
      ∃ skips : Bool, System.run (System.execute (.ofOpcode 0x3000)) c.system =
        (.ok (if skips then some c.system.machine.skipPc else none), c.system) ∧
      System.run (System.execute (.ofOpcode 0x4000)) c.system =
        (.ok (if skips then none else some c.system.machine.skipPc), c.system) := by
  intro c
  have proper : c.system.machine.StackProper := ⟨by decide, by decide⟩
  have ok : c.turn.Succeeds := by decide +kernel
  have word : c.system.machine.readWord c.system.machine.pc.toNat = 0x3000 := by decide +kernel
  have encoded : Operation.skipIfByte.Encoded
      (c.system.machine.readWord c.system.machine.pc.toNat).toNat := by
    rw [word]
    rfl
  obtain ⟨d, hd⟩ := ok
  obtain ⟨next, opposed⟩ := step_successor (ω := Transcript)
  obtain ⟨known, -⟩ := next c c.turn.after d proper (Prod.ext hd rfl)
  refine ⟨proper, ⟨d, hd⟩, ?_, opposed c.system 0x3000 0x4000 (.byte rfl rfl)⟩
  refine (known .skipIfByte encoded).trans ?_
  rw [word]
  decide +kernel

/-- **Not every opcode that starts with zero is a jump**: the one that clears the screen is no
return, and PC does not go to its last three digits. -/
theorem clearScreen_successor :
    let c := poised 0x00 0xE0
    let w := c.system.machine.readWord c.system.machine.pc.toNat
    c.system.machine.StackProper ∧ w.toNat / 4096 = 0x0 ∧ w.toNat ≠ 0x00EE ∧ c.turn.Succeeds ∧
      c.turn.after.system.machine.pc.toNat ≠ w.toNat % 4096 % 65536 := by
  intro c w
  have proper : c.system.machine.StackProper := ⟨by decide, by decide⟩
  have word : w = 0x00E0 := by decide +kernel
  have overflows : ¬ c.system.machine.Overflows := by
    rintro ⟨call, -⟩
    have call : w.toNat / 4096 = 2 := call
    rw [word] at call
    cases call
  have underflows : ¬ c.system.machine.Underflows := by
    rintro ⟨ret, -⟩
    cases word.symm.trans ret
  obtain ⟨d, hd⟩ := perform_step_ok calm_transcript overflows underflows
  obtain ⟨target, m, executed, pc⟩ := pc_of_step (Prod.ext hd rfl)
  have goes := (System.target_of_execute proper executed).1 .clearScreen (congrArg _ word)
  rw [goes] at pc
  refine ⟨proper, by rw [word]; rfl, by rw [word]; decide, ⟨d, hd⟩, fun jumps => ?_⟩
  rw [word] at jumps
  cases pc.symm.trans jumps

end Computer

end Chip8

import Chip8.Proofs.Calm
import Chip8.Proofs.Invariant
import Chip8.Proofs.Runs

/-!
# Calls and returns

A call comes back to the instruction behind it.

* `stack_of_call`, `stack_of_return`: a call that succeeds raises SP by a slot, a return lowers it
  by one, and no other instruction moves it (`sp_of_other`). `frame_of_call` and `return_of_frame`
  say what becomes of the slot.
* `Machine.Frame`: the slot of a call holds its return address, and SP is past it. Only a return at
  its level ends a frame; what else writes memory writes elsewhere, stores at I aside
  (`frame_of_turn`).
* `call_returns` follows a frame from its call to its return.
-/

namespace Chip8

open Chip8.Action

theorem val_cell_of_lt {a : Nat} (h : a < memorySize) : (cell (a : Int)).val = a := by
  simp only [cell, memorySize] at h ⊢
  omega

/-- The high and the low byte of a word make up the word. -/
theorem word_of_bytes (w : UInt16) :
    (w >>> 8).toUInt8.toUInt16 <<< 8 ||| w.toUInt8.toUInt16 = w := by
  have hw := w.toNat_lt
  have high : ((w >>> 8).toUInt8.toUInt16 <<< 8).toNat = 2 ^ 8 * (w.toNat / 2 ^ 8) := by
    simp [Nat.shiftRight_eq_div_pow, Nat.shiftLeft_eq]
    omega
  have low : w.toUInt8.toUInt16.toNat = w.toNat % 2 ^ 8 := by simp
  apply UInt16.toNat_inj.mp
  rw [UInt16.toNat_or, high, low,
    ← Nat.two_pow_add_eq_or_of_lt (Nat.mod_lt _ (Nat.two_pow_pos 8)), Nat.div_add_mod]

namespace Machine

theorem readByte_store (m : Machine) {a k : Nat} {bytes : List UInt8}
    (fits : a + bytes.length ≤ memorySize) (hk : k < bytes.length) :
    ({ m with memory := m.memory.store a bytes } : Machine).readByte (a + k : Nat)
      = bytes[k] := by
  have place : (cell (a + k : Nat)).val = a + k := val_cell_of_lt (by omega)
  have inside : a ≤ (cell (a + k : Nat)).val ∧ (cell (a + k : Nat)).val - a < bytes.length := by
    omega
  refine (Memory.getElem_store _ _ _ (cell _).isLt).trans ((dif_pos inside).trans ?_)
  simp only [place, Nat.add_sub_cancel_left]

theorem readWord_of_readByte {m : Machine} {a : Int} {high low : UInt8}
    (hh : m.readByte a = high) (hl : m.readByte (a + 1) = low) :
    m.readWord a = high.toUInt16 <<< 8 ||| low.toUInt16 := by
  rw [readWord, hh, hl]

/-- A word that was stored is read back. -/
theorem readWord_store (m : Machine) {a : Nat} (fits : a + 2 ≤ memorySize) (w : UInt16) :
    ({ m with memory := m.memory.store a (System.wordBytes w) } : Machine).readWord a = w := by
  have byte {k : Nat} (hk : k < (System.wordBytes w).length) := m.readByte_store fits hk
  exact (readWord_of_readByte (byte Nat.zero_lt_two) (byte Nat.one_lt_two)).trans (word_of_bytes w)

/-- The slot at an offset holds the return address of a call, and SP is past it. -/
structure Frame (m : Machine) (offset : Nat) (address : UInt16) : Prop where
  proper : m.StackProper
  even : offset % 2 = 0
  above : offset + 2 ≤ m.sp.toNat
  slot : m.readWord (stackStart + offset : Nat) = address

end Machine

theorem toNat_sub_two {sp : UInt8} (even : sp.toNat % 2 = 0) (used : sp ≠ 0) :
    (sp - 2).toNat + 2 = sp.toNat := by
  have some : sp.toNat ≠ 0 := fun h => used (UInt8.toNat_inj.mp h)
  have := sp.toNat_lt
  rw [UInt8.toNat_sub]
  simp only [UInt8.reduceToNat]
  omega

namespace System

variable {o : Operands} {m m' : Machine} {target : Option Nat}

theorem yields_call (h : (perform .call o).Yields m target m') : m.sp.toNat < stackSize ∧
    m'.sp.toNat = m.sp.toNat + 2 ∧
    m'.readWord (stackStart + m.sp.toNat : Nat) = UInt16.ofInt (m.nextPc : Nat) := by
  have pushing := h.of_bind_yields ⟨_, course_look m⟩
  by_cases room : m.sp.toNat < stackSize
  · have done := pushing.of_bind_yields ⟨_, course_pushStack room _⟩
    obtain ⟨-, rfl⟩ := done.unique ⟨_, course_pure _ _⟩
    simp only [stackSize, stackDepth] at room
    refine ⟨room, ?_, m.readWord_store ?_ _⟩
    · rw [toNat_byteOfInt]
      omega
    · simp only [stackStart, memorySize]
      omega
  · obtain ⟨_, _, ⟨l, pushed⟩, -⟩ := pushing.of_bind
    rw [course_pushStack_full (Nat.not_lt.mp room)] at pushed
    cases pushed

theorem yields_return (h : (perform .return o).Yields m target m') : m.sp ≠ 0 ∧
    m'.sp = m.sp - 2 ∧
    target = some (m.readWord (stackStart + (m.sp - 2).toNat : Nat)).toNat ∧
    ∀ k < 2, m'.readByte (stackStart + (m.sp - 2).toNat + k : Nat) = 0 := by
  have popping := h.of_bind_yields ⟨_, course_look m⟩
  by_cases empty : m.sp = 0
  · obtain ⟨_, _, ⟨l, popped⟩, -⟩ := popping.of_bind
    rw [course_popStack_empty empty] at popped
    cases popped
  · have done := popping.of_bind_yields ⟨_, course_popStack empty⟩
    obtain ⟨rfl, rfl⟩ := done.unique ⟨_, course_pure _ _⟩
    rw [byteOfInt_sub_two]
    refine ⟨empty, rfl, rfl, fun k hk => ?_⟩
    have fits : stackStart + (m.sp - 2).toNat + [(0 : UInt8), 0].length ≤ memorySize := by
      have := (m.sp - 2).toNat_lt
      simp only [stackStart, memorySize, List.length_cons, List.length_nil]
      omega
    have zero : ∀ b ∈ [(0 : UInt8), 0], b = 0 := by simp
    exact (Machine.readByte_store { m with sp := m.sp - 2 } fits hk).trans
      (zero _ (List.getElem_mem hk))

end System

namespace Turn

variable {ω : Type}

/-- The turn stores digits or registers from I on, and the address is among those it stores to. -/
def Stores (t : Turn ω) (a : Nat) : Prop :=
  (t.Executes .storeDecimal ∨ t.Executes .dumpRegisters) ∧
    t.decoded.Writes t.machine (.byte (cell a))

end Turn

namespace Computer

variable {ω : Type} [Observers ω] {c : Computer ω}

theorem stack_of_call (ok : c.turn.Succeeds) (calls : c.turn.Executes .call) :
    let m := c.turn.machine
    let m' := c.turn.machineAfter
    m.sp.toNat < stackSize ∧ m'.sp.toNat = m.sp.toNat + 2 ∧
      m'.readWord (stackStart + m.sp.toNat : Nat) = UInt16.ofInt (m.nextPc : Nat) := by
  obtain ⟨-, -, -, target, m, executed, hm⟩ := step_eq_ok (perform_step_of_succeeds ok)
  obtain ⟨cycle, dt, st, advanced⟩ := c.timers.advanced_eq (m.goTo target)
  rw [System.execute_eq_perform calls] at executed
  rw [Turn.machineAfter, hm, advanced]
  obtain ⟨room, raised, slot⟩ := System.yields_call executed
  exact ⟨room, raised, slot⟩

theorem stack_of_return (ok : c.turn.Succeeds) (returns : c.turn.Executes .return) :
    let m := c.turn.machine
    let m' := c.turn.machineAfter
    m.sp ≠ 0 ∧ m'.sp = m.sp - 2 ∧ m'.pc = m.readWord (stackStart + (m.sp - 2).toNat : Nat) ∧
      ∀ k < 2, m'.readByte (stackStart + (m.sp - 2).toNat + k : Nat) = 0 := by
  obtain ⟨-, -, -, target, m, executed, hm⟩ := step_eq_ok (perform_step_of_succeeds ok)
  obtain ⟨cycle, dt, st, advanced⟩ := c.timers.advanced_eq (m.goTo target)
  rw [System.execute_eq_perform returns] at executed
  obtain ⟨used, sp, rfl, cleared⟩ := System.yields_return executed
  rw [Turn.machineAfter, hm, advanced]
  exact ⟨used, sp, wordOfInt_toNat _, cleared⟩

theorem sp_of_other (ok : c.turn.Succeeds) (calls : ¬ c.turn.Executes .call)
    (returns : ¬ c.turn.Executes .return) : c.turn.machineAfter.sp = c.turn.machine.sp := by
  refine read_of_step (p := .sp) (perform_step_of_succeeds ok) ?_ nofun nofun nofun nofun
  rintro ⟨op, hop, rfl | rfl⟩
  · exact calls hop
  · exact returns hop

/-- A byte of the stack below SP is written by returns that reach it and by stores at I alone. -/
theorem byte_of_turn (ok : c.turn.Succeeds) {a : Nat}
    (below : a < stackStart + c.turn.machine.sp.toNat) (proper : c.turn.machine.StackProper)
    (returns : c.turn.Executes .return → a < stackStart + (c.turn.machine.sp - 2).toNat)
    (stores : ¬ c.turn.Stores a) :
    c.turn.machineAfter.readByte a = c.turn.machine.readByte a := by
  have top := proper.2
  simp only [stackSize, stackDepth, stackStart] at top below
  have place : (cell a).val = a := val_cell_of_lt (by simp only [memorySize]; omega)
  have unwritten : ¬ c.turn.decoded.Writes c.turn.machine (.byte (cell a)) := by
    rintro ⟨op, hop, writes⟩
    cases op with
    | clearScreen | draw =>
      have display : displayStart ≤ (cell a).val := writes
      simp only [displayStart] at display
      omega
    | call =>
      obtain ⟨k, -, slot⟩ := writes
      simp only [stackStart] at slot
      omega
    | «return» =>
      obtain ⟨k, -, slot⟩ := writes
      have := returns hop
      omega
    | storeDecimal => exact stores ⟨Or.inl hop, _, hop, writes⟩
    | dumpRegisters => exact stores ⟨Or.inr hop, _, hop, writes⟩
    | _ => exact writes
  exact read_of_step (perform_step_of_succeeds ok) unwritten nofun nofun nofun nofun

theorem proper_of_turn (ok : c.turn.Succeeds) (h : c.turn.machine.StackProper) :
    c.turn.machineAfter.StackProper := by
  obtain ⟨even, top⟩ := h
  by_cases calls : c.turn.Executes .call
  · obtain ⟨room, raised, -⟩ := stack_of_call ok calls
    simp only [Machine.StackProper, stackSize, stackDepth] at room ⊢
    omega
  · by_cases returns : c.turn.Executes .return
    · obtain ⟨used, lowered, -, -⟩ := stack_of_return ok returns
      have := toNat_sub_two even used
      simp only [Machine.StackProper, lowered]
      omega
    · rw [Machine.StackProper, sp_of_other ok calls returns]
      exact ⟨even, top⟩

/-- A call makes a frame. -/
theorem frame_of_call (ok : c.turn.Succeeds) (calls : c.turn.Executes .call)
    (proper : c.turn.machine.StackProper) : c.turn.machineAfter.Frame c.turn.machine.sp.toNat
      (UInt16.ofInt (c.turn.machine.nextPc : Nat)) := by
  obtain ⟨-, raised, slot⟩ := stack_of_call ok calls
  exact ⟨proper_of_turn ok proper, proper.1, raised.ge, slot⟩

/-- A frame outlasts every step but a return at its level and stores into its slot. -/
theorem frame_of_turn {offset : Nat} {address : UInt16} (ok : c.turn.Succeeds)
    (level : c.turn.Executes .return → c.turn.machine.sp.toNat ≠ offset + 2)
    (spared : ∀ k < 2, ¬ c.turn.Stores (stackStart + offset + k))
    (h : c.turn.machine.Frame offset address) : c.turn.machineAfter.Frame offset address := by
  obtain ⟨proper, even, above, slot⟩ := h
  have past (returns : c.turn.Executes .return) :
      offset + 2 ≤ (c.turn.machine.sp - 2).toNat := by
    have := toNat_sub_two proper.1 (stack_of_return ok returns).1
    have := level returns
    have := proper.1
    omega
  have byte (k : Nat) (hk : k < 2) : c.turn.machineAfter.readByte (stackStart + offset + k : Nat)
      = c.turn.machine.readByte (stackStart + offset + k : Nat) :=
    byte_of_turn ok (by omega) proper (fun returns => by have := past returns; omega)
      (spared k hk)
  refine ⟨proper_of_turn ok proper, even, ?_, ?_⟩
  · by_cases calls : c.turn.Executes .call
    · obtain ⟨-, raised, -⟩ := stack_of_call ok calls
      omega
    · by_cases returns : c.turn.Executes .return
      · rw [(stack_of_return ok returns).2.1]
        exact past returns
      · rw [sp_of_other ok calls returns]
        exact above
  · exact (Machine.readWord_of_readByte (byte 0 Nat.zero_lt_two) (byte 1 Nat.one_lt_two)).trans slot

theorem proper_after (xs : List Act) (ok : ∀ t ∈ c.turns xs, t.Succeeds)
    (h : c.system.machine.StackProper) : (c.after xs).system.machine.StackProper := by
  refine after_keeps (P := fun c => c.system.machine.StackProper) (fun c x h => ?_)
    (fun c ok h => proper_of_turn ok h) xs ok h
  obtain ⟨key, generator, hc⟩ := c.give_eq x
  exact hc ▸ h

theorem frame_after {offset : Nat} {address : UInt16} (xs : List Act)
    (ok : ∀ t ∈ c.turns xs, t.Succeeds)
    (level : ∀ t ∈ c.turns xs, t.Executes .return → t.machine.sp.toNat ≠ offset + 2)
    (spared : ∀ t ∈ c.turns xs, ∀ k < 2, ¬ t.Stores (stackStart + offset + k))
    (h : c.system.machine.Frame offset address) :
    (c.after xs).system.machine.Frame offset address := by
  let within := c.turns xs
  refine after_keeps (P := fun c => c.system.machine.Frame offset address) (Q := (· ∈ within))
    (fun c x h => ?_) (fun c inside h => ?_) xs (fun _ ht => ht) h
  · obtain ⟨key, generator, hc⟩ := c.give_eq x
    exact hc ▸ ⟨h.proper, h.even, h.above, h.slot⟩
  · exact frame_of_turn (ok _ inside) (level _ inside) (spared _ inside) h

/-- The return at the level of a frame goes to its address and clears its slot. -/
theorem return_of_frame {offset : Nat} {address : UInt16} (ok : c.turn.Succeeds)
    (returns : c.turn.Executes .return) (level : c.turn.machine.sp.toNat = offset + 2)
    (h : c.turn.machine.Frame offset address) : c.turn.machineAfter.pc = address ∧
      c.turn.machineAfter.sp.toNat = offset ∧
      ∀ k < 2, c.turn.machineAfter.readByte (stackStart + offset + k : Nat) = 0 := by
  obtain ⟨used, lowered, pc, cleared⟩ := stack_of_return ok returns
  have back : (c.turn.machine.sp - 2).toNat = offset := by
    have := toNat_sub_two h.proper.1 used
    omega
  rw [back] at pc cleared
  exact ⟨pc.trans h.slot, lowered ▸ back, cleared⟩

/-- **A call returns to its caller**: at the first return on its level PC is behind the call, SP is
where it was, and the slot is clear. -/
theorem call_returns {c : Computer ω} (proper : c.system.machine.StackProper) {xs : List Act}
    (ok : ∀ t ∈ c.turns xs, t.Succeeds) {before between later : List (Turn ω)}
    {call ret : Turn ω} (run : c.turns xs = before ++ call :: (between ++ ret :: later))
    (calls : call.Executes .call) (returns : ret.Executes .return)
    (level : ret.machine.sp.toNat = call.machine.sp.toNat + 2)
    (first : ∀ t ∈ between, t.Executes .return →
      t.machine.sp.toNat ≠ call.machine.sp.toNat + 2)
    (spared : ∀ t ∈ between, ∀ k < 2, ¬ t.Stores (stackStart + call.machine.sp.toNat + k)) :
    ret.machineAfter.pc.toNat = (call.machine.pc.toNat + 2) % 65536 ∧
      ret.machineAfter.sp = call.machine.sp ∧
      ∀ k < 2, ret.machineAfter.readByte (stackStart + call.machine.sp.toNat + k : Nat) = 0 := by
  obtain ⟨ys, rest, hbefore, rfl, hrest, -⟩ := turns_eq_append_cons run
  obtain ⟨zs, _, hbetween, rfl, -, -⟩ := turns_eq_append_cons hrest
  rw [run] at ok
  obtain ⟨ok_before, ok⟩ := List.forall_mem_append.mp ok
  obtain ⟨ok_call, ok⟩ := List.forall_mem_cons.mp ok
  obtain ⟨ok_between, ok⟩ := List.forall_mem_append.mp ok
  obtain ⟨ok_ret, -⟩ := List.forall_mem_cons.mp ok
  have reached := proper_after ys (hbefore ▸ ok_before) proper
  have made := frame_of_call ok_call calls reached
  have kept := frame_after zs (hbetween ▸ ok_between) (hbetween ▸ first) (hbetween ▸ spared) made
  obtain ⟨pc, sp, cleared⟩ := return_of_frame ok_ret returns level kept
  refine ⟨?_, UInt8.toNat_inj.mp sp, cleared⟩
  rw [pc, toNat_wordOfInt]
  simp only [Machine.nextPc, instructionSize]
  omega

/-- A computer whose program calls a routine that calls another one. -/
def caller : Computer Transcript :=
  let program : List UInt8 := [0x20, 0x04, 0x00, 0x00, 0x20, 0x08, 0x00, 0xEE, 0x00, 0xEE]
  let memory : Memory := Memory.store (Vector.replicate memorySize 0) 0 program
  let bus : Bus Transcript := ⟨[⟨.monitor, none⟩], ⟨[]⟩, []⟩
  { fresh bus with system := ⟨{ Machine.powerOn .unseeded with memory := memory }, bus⟩ }

/-- With a nested call, its return and a released key between the call and its return. -/
theorem call_returns_caller :
    let call := caller.turn
    let inner := call.after.turn
    let innerReturn := (inner.after.give .release).turn
    let ret := innerReturn.after.turn
    caller.turns [.step, .step, .give .release, .step, .step] = [call, inner, innerReturn, ret] ∧
      call.machine.pc = 0 ∧ call.Executes .call ∧ ret.Executes .return ∧
      ret.machineAfter.pc.toNat = (call.machine.pc.toNat + 2) % 65536 ∧
      ret.machineAfter.sp = call.machine.sp := by
  intro call inner innerReturn ret
  have proper : caller.system.machine.StackProper := ⟨rfl, Nat.zero_le _⟩
  have run : caller.turns [.step, .step, .give .release, .step, .step] =
      [] ++ call :: ([inner, innerReturn] ++ ret :: []) := rfl
  obtain ⟨ok, calls, returns, level, first, storeless⟩ :
      (∀ t ∈ [] ++ call :: ([inner, innerReturn] ++ ret :: []), t.Succeeds) ∧ call.Executes .call ∧
        ret.Executes .return ∧ ret.machine.sp.toNat = call.machine.sp.toNat + 2 ∧
        (∀ t ∈ [inner, innerReturn], t.Executes .return →
          t.machine.sp.toNat ≠ call.machine.sp.toNat + 2) ∧
        ∀ t ∈ [inner, innerReturn], ¬ t.Executes .storeDecimal ∧ ¬ t.Executes .dumpRegisters := by
    decide +kernel
  have spared : ∀ t ∈ [inner, innerReturn], ∀ k < 2,
      ¬ t.Stores (stackStart + call.machine.sp.toNat + k) :=
    fun t ht _ _ stores => stores.1.elim (storeless t ht).1 (storeless t ht).2
  obtain ⟨pc, sp, -⟩ := call_returns proper (run ▸ ok) run calls returns level first spared
  exact ⟨run, rfl, calls, returns, pc, sp⟩

end Computer

end Chip8

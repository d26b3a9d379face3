import Chip8.Proofs.CallReturn

/-!
# The call stack as a list

Pushes and pops treat the stack in memory as a list of words with room for sixteen.

* `StackCall.onList` is what a call does to the list, and `StackCall.slot?` the slot it reaches.
* `Machine.Stacked`: the slots below SP hold the list. `StackCall.run_action` is one call: it
  answers as the list does and reaches its own slot only. If it is refused it does nothing
  (`StackCall.run_refused`).
* `calls_refine_list` puts calls one after another, refused ones among them.
-/

namespace Chip8

open Chip8.Action

/-- The address is one of the two bytes of a stack slot. -/
def InSlot (k : Nat) (a : Fin memorySize) : Prop := ∃ j < 2, a.val = stackStart + 2 * k + j

theorem InSlot.unique {j k : Nat} {a : Fin memorySize} (h : InSlot j a) (h' : InSlot k a) :
    j = k := by
  obtain ⟨b, hb, ha⟩ := h
  obtain ⟨c, hc, ha'⟩ := h'
  omega

namespace Machine

variable {m m' : Machine}

/-- The word in a stack slot. -/
def slot (m : Machine) (k : Nat) : UInt16 := m.readWord (stackStart + 2 * k)

/-- Both bytes of a slot are zero. -/
def ClearSlot (m : Machine) (k : Nat) : Prop := ∀ a, InSlot k a → m.memory.get a = 0

/-- The slots below SP hold the words of a list, the oldest first. -/
structure Stacked (m : Machine) (l : List UInt16) : Prop where
  sp : m.sp.toNat = 2 * l.length
  fits : l.length ≤ stackDepth
  words : ∀ k, (h : k < l.length) → m.slot k = l[k]

theorem stacked_stackFrames (proper : m.StackProper) : m.Stacked m.stackFrames := by
  obtain ⟨even, top⟩ := proper
  have length : m.stackFrames.length = (m.sp.toNat + 1) / 2 := by
    rw [stackFrames, List.length_map, List.length_range]
  refine ⟨by omega, ?_, fun k h => ?_⟩
  · simp only [stackSize] at top
    omega
  · simp only [stackFrames, List.getElem_map, List.getElem_range]
    rfl

theorem Stacked.stackFrames {l : List UInt16} (h : m.Stacked l) : m.stackFrames = l := by
  have half : (m.sp.toNat + 1) / 2 = l.length := by
    have := h.sp
    omega
  refine List.ext_getElem ?_ fun k h₁ h₂ => ?_
  · rw [Machine.stackFrames, List.length_map, List.length_range, half]
  · rw [← h.words k h₂]
    simp only [Machine.stackFrames, List.getElem_map, List.getElem_range]
    rfl

theorem get_store_of_not_inSlot {k : Nat} {a : Fin memorySize} {bytes : List UInt8}
    (two : bytes.length = 2) (ha : ¬ InSlot k a) (memory : Memory) :
    (memory.store (stackStart + 2 * k) bytes).get a = memory.get a := by
  refine (Memory.getElem_store _ _ _ a.isLt).trans (dif_neg ?_)
  rw [two]
  exact fun ⟨h₁, h₂⟩ => ha ⟨_, h₂, by omega⟩

theorem clearSlot_store (m : Machine) (k : Nat) :
    ({ m with memory := m.memory.store (stackStart + 2 * k) [0, 0] } : Machine).ClearSlot k := by
  rintro a ⟨j, hj, ha⟩
  have inside : stackStart + 2 * k ≤ a.val ∧
      a.val - (stackStart + 2 * k) < [(0 : UInt8), 0].length := by
    rw [List.length_cons, List.length_singleton]
    omega
  have zero : ∀ b ∈ [(0 : UInt8), 0], b = 0 := by simp
  exact (Memory.getElem_store _ _ _ a.isLt).trans
    ((dif_pos inside).trans (zero _ (List.getElem_mem inside.2)))

theorem inSlot_cell {k j : Nat} (hk : k < stackDepth) (hj : j < 2) :
    InSlot k (cell (stackStart + 2 * k + j : Nat)) :=
  ⟨j, hj, val_cell_of_lt (by simp only [stackStart, stackDepth, memorySize] at *; omega)⟩

/-- Slots are read from their own bytes. -/
theorem slot_congr {k : Nat} (hk : k < stackDepth)
    (same : ∀ a, InSlot k a → m'.memory.get a = m.memory.get a) : m'.slot k = m.slot k := by
  have high : m'.readByte (stackStart + 2 * k) = m.readByte (stackStart + 2 * k) :=
    same _ (inSlot_cell hk Nat.zero_lt_two)
  have low : m'.readByte (stackStart + 2 * k + 1) = m.readByte (stackStart + 2 * k + 1) :=
    same _ (inSlot_cell hk Nat.one_lt_two)
  rw [slot, slot, readWord, high, low]
  rfl

/-- Slots other than the one that was reached keep their words. -/
theorem Stacked.word {l : List UInt16} (h : m.Stacked l) {k : Nat}
    (others : ∀ a, ¬ InSlot k a → m'.memory.get a = m.memory.get a) {j : Nat} (hj : j < l.length)
    (hne : j ≠ k) : m'.slot j = l[j] := by
  rw [← h.words j hj]
  exact slot_congr (Nat.lt_of_lt_of_le hj h.fits) fun a ha =>
    others a fun ha' => hne (ha.unique ha')

theorem Stacked.push {l : List UInt16} (h : m.Stacked l) {newest : UInt16}
    (room : l.length < stackDepth) (sp : m'.sp.toNat = 2 * l.length + 2)
    (others : ∀ a, ¬ InSlot l.length a → m'.memory.get a = m.memory.get a)
    (top : m'.slot l.length = newest) : m'.Stacked (l ++ [newest]) := by
  have length : (l ++ [newest]).length = l.length + 1 := by simp
  refine ⟨by omega, by omega, fun k hk => ?_⟩
  rcases Nat.lt_or_eq_of_le (show k ≤ l.length by omega) with below | rfl
  · rw [List.getElem_append_left below]
    exact h.word others below below.ne
  · rw [List.getElem_concat_length rfl]
    exact top

theorem Stacked.pop {l : List UInt16} {newest : UInt16} (h : m.Stacked (l ++ [newest]))
    (sp : m'.sp.toNat = 2 * l.length)
    (others : ∀ a, ¬ InSlot l.length a → m'.memory.get a = m.memory.get a) : m'.Stacked l := by
  have length : (l ++ [newest]).length = l.length + 1 := by simp
  have fits := h.fits
  refine ⟨sp, by omega, fun k hk => ?_⟩
  rw [h.word others (by omega) hk.ne, List.getElem_append_left hk]

end Machine

/-- A call of a stack operation. -/
inductive StackCall where
  | push (address : Int)
  | pop

namespace StackCall

open Chip8.System

/-- The call on a machine. Only a pop has a word to return. -/
def action : StackCall → Action (Option UInt16)
  | push address => do
    pushStack address
    return none
  | pop => do
    let address ← popStack
    return some address

/-- The call on a list of words, the oldest first. -/
def onList : StackCall → List UInt16 → Except Fault (Option UInt16) × List UInt16
  | push address, l =>
    if l.length < stackDepth then (.ok none, l ++ [UInt16.ofInt address])
    else (.error (.stackOverflow 32), l)
  | pop, l =>
    match l.getLast? with
    | some newest => (.ok (some newest), l.dropLast)
    | none => (.error (.stackUnderflow 0), l)

/-- The slot that the call reaches, unless it is refused. -/
def slot? : StackCall → List UInt16 → Option Nat
  | push _, l => if l.length < stackDepth then some l.length else none
  | pop, l => if l.length = 0 then none else some (l.length - 1)

/-- What a call does to the machine. -/
structure Reaches (c : StackCall) (l : List UInt16) (m m' : Machine) : Prop where
  stacked : m'.Stacked (c.onList l).2
  others : ∀ a, (∀ k ∈ c.slot? l, ¬ InSlot k a) → m'.memory.get a = m.memory.get a
  cleared : c = pop → ∀ k ∈ c.slot? l, m'.ClearSlot k
  rest : m' = { m with memory := m'.memory, sp := m'.sp }

variable {m : Machine} {l : List UInt16}

theorem yields_push (h : m.Stacked l) (room : l.length < stackDepth) (address : Int) :
    ∃ m', (push address).action.Yields m none m' ∧ (push address).Reaches l m m' := by
  have hsp : m.sp.toNat < stackSize := by
    rw [h.sp]
    simp only [stackSize]
    omega
  have pushed := course_pushStack hsp address
  rw [h.sp] at pushed
  refine ⟨_, .bind ⟨_, pushed⟩ ⟨_, course_pure _ _⟩, ?_, fun a ha => ?_, nofun, rfl⟩
  · rw [onList, if_pos room]
    refine h.push room ?_ (fun a ha => Machine.get_store_of_not_inSlot rfl ha _) ?_
    · rw [toNat_byteOfInt]
      simp only [stackDepth] at room
      omega
    · refine m.readWord_store ?_ (UInt16.ofInt address)
      simp only [stackStart, stackDepth, memorySize] at room ⊢
      omega
  · rw [slot?, if_pos room] at ha
    exact Machine.get_store_of_not_inSlot rfl (ha _ rfl) _

theorem yields_pop {newest : UInt16} (h : m.Stacked (l ++ [newest])) :
    ∃ m', pop.action.Yields m (some newest) m' ∧ pop.Reaches (l ++ [newest]) m m' := by
  have length : (l ++ [newest]).length = l.length + 1 := by simp
  have hsp := h.sp
  have fits := h.fits
  rw [length] at hsp fits
  have used : m.sp ≠ 0 := by
    intro zero
    rw [zero] at hsp
    cases hsp
  have lowered : (UInt8.ofInt ((m.sp.toNat : Int) - 2)).toNat = 2 * l.length := by
    rw [toNat_byteOfInt, hsp]
    simp only [stackDepth] at fits
    omega
  -- the slot is read and cleared where SP stands once it was lowered
  have popped := course_popStack used
  dsimp only at popped
  rw [lowered] at popped
  have top : m.slot l.length = newest := by
    rw [h.words l.length (by omega), List.getElem_concat_length rfl]
  have answer : pop.onList (l ++ [newest]) = (.ok (some newest), l) := by
    simp only [onList, List.getLast?_concat, List.dropLast_concat]
  have slot : pop.slot? (l ++ [newest]) = some l.length := by
    rw [slot?, length, if_neg (Nat.succ_ne_zero _), Nat.add_sub_cancel]
  have done : popStack.Yields m newest { m with
      memory := m.memory.store (stackStart + 2 * l.length) [0, 0]
      sp := UInt8.ofInt ((m.sp.toNat : Int) - 2) } := by
    rw [← top]
    exact ⟨_, popped⟩
  refine ⟨_, .bind done ⟨_, course_pure _ _⟩, ?_, fun a ha => ?_, fun _ k hk => ?_, rfl⟩
  · rw [answer]
    exact h.pop lowered fun a ha => Machine.get_store_of_not_inSlot rfl ha _
  · rw [slot] at ha
    exact Machine.get_store_of_not_inSlot rfl (ha _ rfl) _
  · obtain rfl := Option.some.inj (slot.symm.trans hk)
    exact Machine.clearSlot_store m l.length

/-- A call that the list refuses does nothing. -/
theorem course_refused {c : StackCall} {cause : Fault} (h : m.Stacked l)
    (refused : (c.onList l).1 = .error cause) :
    c.action.course m = ⟨[], .error cause, m⟩ ∧ (c.onList l).2 = l ∧ c.slot? l = none := by
  have hsp := h.sp
  have fits := h.fits
  cases c with
  | push address =>
    by_cases room : l.length < stackDepth
    · rw [onList, if_pos room] at refused
      cases refused
    · rw [onList, if_neg room] at refused ⊢
      cases refused
      have top : m.sp = 32 := by
        apply UInt8.toNat_inj.mp
        simp only [stackDepth, UInt8.reduceToNat] at *
        omega
      refine ⟨?_, rfl, if_neg room⟩
      have full : stackSize ≤ m.sp.toNat := by simp only [stackSize]; omega
      rw [action, course_bind, course_pushStack_full full, Course.andThen_error, top]
  | pop =>
    rcases l.eq_nil_or_concat with rfl | ⟨older, newest, rfl⟩
    · cases refused
      have empty : m.sp = 0 := UInt8.toNat_inj.mp hsp
      refine ⟨?_, rfl, rfl⟩
      rw [action, course_bind, course_popStack_empty empty, Course.andThen_error, empty]
    · simp only [onList, List.concat_eq_append, List.getLast?_concat] at refused
      cases refused

/-- A call that the list takes is made. -/
theorem yields_of_onList {c : StackCall} {x : Option UInt16} (h : m.Stacked l)
    (taken : (c.onList l).1 = .ok x) : ∃ m', c.action.Yields m x m' ∧ c.Reaches l m m' := by
  cases c with
  | push address =>
    by_cases room : l.length < stackDepth
    · rw [onList, if_pos room] at taken
      cases taken
      exact yields_push h room address
    · rw [onList, if_neg room] at taken
      cases taken
  | pop =>
    rcases l.eq_nil_or_concat with rfl | ⟨older, newest, rfl⟩
    · cases taken
    · simp only [onList, List.concat_eq_append, List.getLast?_concat] at taken h ⊢
      cases taken
      exact yields_pop h

/-- Calls one after another, with their answers. One that is refused does not end them. -/
def each {σ ρ : Type} (f : StackCall → σ → ρ × σ) : List StackCall → σ → List ρ × σ
  | [], x => ([], x)
  | c :: rest, x => ((f c x).1 :: (each f rest (f c x).2).1, (each f rest (f c x).2).2)

/-- The slots that calls reach one after another, each with its call. -/
def reached : List StackCall → List UInt16 → List (Nat × StackCall)
  | [], _ => []
  | c :: rest, l =>
    match c.slot? l with
    | some k => (k, c) :: reached rest (c.onList l).2
    | none => reached rest (c.onList l).2

section Runs

variable {ω : Type} [Observers ω] {s : System ω}

theorem run_refused {c : StackCall} {cause : Fault} (h : s.machine.Stacked l)
    (refused : (c.onList l).1 = .error cause) : run c.action s = (.error cause, s) := by
  rw [run_eq_play, (course_refused h refused).1]
  rfl

/-- **One call** answers as the list does. -/
theorem run_action (calm : Observers.Calm ω) (h : s.machine.Stacked l) (c : StackCall) :
    (run c.action s).1 = (c.onList l).1 ∧ c.Reaches l s.machine (run c.action s).2.machine := by
  cases answer : (c.onList l).1 with
  | error cause =>
    obtain ⟨-, list, slot⟩ := course_refused h answer
    rw [run_refused h answer]
    refine ⟨rfl, ?_, fun _ _ => rfl, fun _ k hk => ?_, rfl⟩
    · rw [list]
      exact h
    · rw [slot] at hk
      cases hk
  | ok x =>
    obtain ⟨m', yields, reaches⟩ := yields_of_onList h answer
    obtain ⟨result, machine⟩ := run_of_yields calm yields
    rw [result, machine]
    exact ⟨rfl, reaches⟩

theorem mem_reached_cons {c : StackCall} {rest : List StackCall} {e : Nat × StackCall} :
    e ∈ reached (c :: rest) l ↔
      (e.2 = c ∧ e.1 ∈ c.slot? l) ∨ e ∈ reached rest (c.onList l).2 := by
  rw [reached]
  cases c.slot? l with
  | none => simp
  | some k =>
    obtain ⟨j, d⟩ := e
    simp only [List.mem_cons, Prod.mk.injEq, Option.mem_def, Option.some.injEq]
    tauto

/-- **Calls one after another** answer as the list does, and reach no other slots than it. -/
theorem run_each (calm : Observers.Calm ω) (calls : List StackCall) (h : s.machine.Stacked l) :
    let last := each (fun c => run c.action) calls s
    last.1 = (each onList calls l).1 ∧ last.2.machine.Stacked (each onList calls l).2
      ∧ (∀ a, (∀ e ∈ reached calls l, ¬ InSlot e.1 a) →
        last.2.machine.memory.get a = s.machine.memory.get a)
      ∧ last.2.machine =
        { s.machine with memory := last.2.machine.memory, sp := last.2.machine.sp } := by
  induction calls generalizing s l with
  | nil => exact ⟨rfl, h, fun _ _ => rfl, rfl⟩
  | cons c rest ih =>
    obtain ⟨answer, first⟩ := run_action calm h c
    obtain ⟨answers, stacked, others, whole⟩ := ih first.stacked
    refine ⟨?_, stacked, fun a ha => ?_, ?_⟩
    · simp only [each, answer, answers]
    · rw [each, others a fun e he => ha e (mem_reached_cons.mpr (Or.inr he))]
      exact first.others a fun k hk => ha (k, c) (mem_reached_cons.mpr (Or.inl ⟨rfl, hk⟩))
    · simp only [each]
      rw [whole, first.rest]

/-- A slot that is zero stays so as long as no push reaches it. -/
theorem clearSlot_each (calm : Observers.Calm ω) (calls : List StackCall) {k : Nat}
    (h : s.machine.Stacked l) (clear : s.machine.ClearSlot k)
    (unpushed : ∀ address, (k, push address) ∉ reached calls l) :
    (each (fun c => run c.action) calls s).2.machine.ClearSlot k := by
  induction calls generalizing s l with
  | nil => exact clear
  | cons c rest ih =>
    obtain ⟨-, first⟩ := run_action calm h c
    refine ih first.stacked ?_ fun address later =>
      unpushed address (mem_reached_cons.mpr (Or.inr later))
    by_cases hk : k ∈ c.slot? l
    · cases c with
      | push address => exact absurd (mem_reached_cons.mpr (Or.inl ⟨rfl, hk⟩)) (unpushed address)
      | pop => exact first.cleared rfl k hk
    · intro a ha
      have elsewhere : ∀ j ∈ c.slot? l, ¬ InSlot j a := fun j hj ha' => hk (ha'.unique ha ▸ hj)
      rw [first.others a elsewhere, clear a ha]

theorem clearSlot_of_popped (calm : Observers.Calm ω) {calls : List StackCall} {k : Nat}
    {before later : List (Nat × StackCall)} (h : s.machine.Stacked l)
    (popped : reached calls l = before ++ (k, pop) :: later)
    (unpushed : ∀ address, (k, push address) ∉ later) :
    (each (fun c => run c.action) calls s).2.machine.ClearSlot k := by
  induction calls generalizing s l before with
  | nil => exact absurd popped.symm (by simp [reached])
  | cons c rest ih =>
    obtain ⟨-, first⟩ := run_action calm h c
    rw [reached] at popped
    cases slot : c.slot? l with
    | none =>
      rw [slot] at popped
      exact ih first.stacked popped
    | some j =>
      rw [slot] at popped
      cases before with
      | cons e before => exact ih first.stacked (List.cons.inj popped).2
      | nil =>
        obtain ⟨reachedHere, rfl⟩ := List.cons.inj popped
        cases reachedHere
        exact clearSlot_each calm rest first.stacked (first.cleared rfl k slot) unpushed

end Runs

end StackCall

namespace System

open StackCall

/-- **The call stack is a list** of up to sixteen words. Pushes and pops, in any order, answer as
they do on the list, and a call that is refused does nothing and tells nobody. -/
theorem calls_refine_list {ω : Type} [Observers ω] (calm : Observers.Calm ω) {s : System ω}
    (proper : s.machine.StackProper) (calls : List StackCall) :
    let frames := s.machine.stackFrames
    let list := each onList calls frames
    let last := each (fun c => run c.action) calls s
    let m := last.2.machine
    last.1 = list.1
      ∧ m.stackFrames = list.2 ∧ m.sp.toNat = 2 * list.2.length ∧ list.2.length ≤ stackDepth
      ∧ (∀ k before later, reached calls frames = before ++ (k, pop) :: later →
        (∀ address, (k, push address) ∉ later) → m.ClearSlot k)
      ∧ (∀ a, (∀ e ∈ reached calls frames, ¬ InSlot e.1 a) →
        m.memory.get a = s.machine.memory.get a)
      ∧ m = { s.machine with memory := m.memory, sp := m.sp }
      ∧ ∀ (c : StackCall) (cause : Fault), (c.onList list.2).1 = .error cause →
        (c.onList list.2).2 = list.2 ∧ run c.action last.2 = (.error cause, last.2) := by
  intro frames list last m
  have start : s.machine.Stacked frames := Machine.stacked_stackFrames proper
  obtain ⟨answers, stacked, others, whole⟩ := run_each calm calls start
  exact ⟨answers, stacked.stackFrames, stacked.sp, stacked.fits,
    fun k before later popped unpushed => clearSlot_of_popped calm start popped unpushed,
    others, whole, fun c cause refused =>
      ⟨(course_refused stacked refused).2.1, run_refused stacked refused⟩⟩

/-- On a stack with one word: more pops than words, a push of an address beyond 16 bits, and pushes
until one is refused. -/
theorem calls_refine_list_crowded :
    let s : System Transcript :=
      ⟨{ Machine.powerOn .unseeded with sp := 2 }, [⟨.monitor, none⟩], ⟨[]⟩, []⟩
    let calls := [pop, pop, push 0x12345] ++ List.replicate 16 (push (-1))
    let last := each (fun c => run c.action) calls s
    s.machine.StackProper
      ∧ last.1 = [.ok (some 0), .error (.stackUnderflow 0)] ++ List.replicate 16 (.ok none)
        ++ [.error (.stackOverflow 32)]
      ∧ last.2.machine.stackFrames = 0x2345 :: List.replicate 15 0xFFFF := by
  intro s calls last
  have proper : s.machine.StackProper := ⟨by decide, by decide⟩
  have frames : s.machine.stackFrames = [0] := by decide +kernel
  obtain ⟨answers, stacked, -⟩ := calls_refine_list calm_transcript proper calls
  rw [frames] at answers stacked
  exact ⟨proper, answers.trans (by decide), stacked.trans (by decide)⟩

end System

end Chip8

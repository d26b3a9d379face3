import Chip8.Bench.Cast
import Chip8.Proofs.Control
import Chip8.Proofs.Frames

/-!
# The invariant of a driven computer

Whatever is asked of a computer and whatever its observers do, failing at any event included,
every state it comes to is `Computer.Proper`: registers and key are within their widths, SP is
even and no further than the stack goes, and the timer cycle is the count of executed
instructions modulo the period.

* Only calls and returns write SP, and no instruction writes the cycle (`keeps_execute`).
* The timers advance the cycle in one piece with the count, with no event between the two, so no
  observer can part them (`preserves_step`). A reset clears the cycle last (`ends_reset`).
-/

namespace Chip8

open Chip8.Action

/-- SP stands at the start of a slot or at the end of the stack. -/
def Machine.StackProper (m : Machine) : Prop := m.sp.toNat % 2 = 0 ∧ m.sp.toNat ≤ stackSize

namespace System

theorem keeps_pushStack (address : Int) : (pushStack address).Keeps Machine.StackProper := by
  intro m hm
  by_cases room : m.sp.toNat < stackSize
  · have raised : Machine.StackProper { m with sp := UInt8.ofInt ((m.sp.toNat : Int) + 2) } := by
      simp only [Machine.StackProper, stackSize, stackDepth, toNat_byteOfInt] at hm room ⊢
      omega
    rw [course_pushStack room]
    exact .of_ok (List.forall_mem_cons.mpr ⟨hm, List.forall_mem_singleton.mpr raised⟩) raised
  · rw [course_pushStack_full (Nat.not_lt.mp room)]
    exact .of_error (by simp) hm

theorem keeps_popStack : popStack.Keeps Machine.StackProper := by
  intro m hm
  by_cases empty : m.sp = 0
  · rw [course_popStack_empty empty]
    exact .of_error (by simp) hm
  · have lowered : Machine.StackProper { m with sp := UInt8.ofInt ((m.sp.toNat : Int) - 2) } := by
      have : m.sp.toNat ≠ 0 := fun h => empty (UInt8.toNat_inj.mp h)
      simp only [Machine.StackProper, stackSize, stackDepth, toNat_byteOfInt] at hm ⊢
      omega
    rw [course_popStack empty]
    exact .of_ok (List.forall_mem_cons.mpr ⟨lowered, List.forall_mem_singleton.mpr lowered⟩) lowered

/-- Where the stack is proper and the timer cycle stands at a count. -/
def Steady (n : Int) (m : Machine) : Prop := m.StackProper ∧ m.cycle.value = n

theorem steady_of_keeps {α : Type} {a : Action α} (hs : a.Keeps Machine.StackProper)
    (hc : a.Leaves Machine.cycle) (n : Int) : a.Keeps (Steady n) := by
  intro m ⟨hm, hn⟩
  refine ((hs m hm).and (hc m)).mono ?_ ?_
  · exact fun m' ⟨h, e⟩ => ⟨h, e ▸ hn⟩
  · exact fun _ m' ⟨h, e⟩ => ⟨h, e ▸ hn⟩

theorem steady_of_leaves {α : Type} {a : Action α} (h : a.Leaves fun m => (m.sp, m.cycle))
    (n : Int) : a.Keeps (Steady n) := by
  refine h.keeps fun m m' e ⟨hm, hn⟩ => ?_
  obtain ⟨hsp, hcycle⟩ := Prod.mk.inj e
  exact ⟨by rwa [Machine.StackProper, hsp], by rwa [hcycle]⟩

theorem compositional_keeps (P : Machine → Prop) : Compositional fun _ a => a.Keeps P :=
  ⟨.pure, .look, .bind⟩

theorem stores_keep (n : Int) : OfStores fun _ a => a.Keeps (Steady n) :=
  (stores_leave blind_stack).mono (compositional_keeps _) fun h => steady_of_leaves h n

/-- Calls and returns move SP by a slot, within the stack; nothing else moves it. -/
theorem keeps_execute (n : Int) (d : Decoded) : (execute d).Keeps (Steady n) := by
  have setSp := leaves_setSp (F := Machine.cycle) fun _ _ => rfl
  refine (stores_keep n).writers.execute d ?_ ?_
  · intro address
    have cycle := (stores_leave blind_cycle).pushStack setSp address
    exact steady_of_keeps (keeps_pushStack address) cycle n
  · have cycle := (stores_leave blind_cycle).popStack setSp
    exact steady_of_keeps keeps_popStack cycle n

theorem keeps_setPc (n x : Int) : (setPc x).Keeps (Steady n) :=
  steady_of_leaves (leaves_setPc (fun _ _ => rfl) x) n

theorem keeps_instruction (n : Int) : Computer.instruction.Keeps (Steady n) :=
  (compositional_keeps _).instruction (steady_of_leaves (.notify _) n) (keeps_execute n)
    (keeps_setPc n)

/-- The cycle moves on before any notification, and the ticks after it leave it alone. -/
theorem ends_advance (t : Timers) {n : Int} {m : Machine} (h : Steady n m) :
    (t.advance.course m).Ends (Steady ((n + 1) % t.period))
      fun _ => Steady ((n + 1) % t.period) := by
  have moved : Steady ((n + 1) % t.period)
      { m with cycle := (m.cycle.value + 1) % (t.period : Int) } := ⟨h.1, by rw [← h.2]; rfl⟩
  have stores := stores_keep ((n + 1) % t.period)
  have ticks := Timers.tick_of_parts stores.toCompositional stores.setDt stores.setSt t
  rw [Timers.advance_eq, course_bind, course_change, Course.andThen_ok, Course.behind_nil]
  exact ticks _ moved

theorem keeps_setSp_zero (n : Int) : (setSp 0).Keeps (Steady n) := by
  intro m ⟨_, hn⟩
  have cleared : Steady n { m with sp := UInt8.ofInt 0 } := ⟨⟨rfl, Nat.zero_le _⟩, hn⟩
  rw [course_setSp]
  exact .of_ok (List.forall_mem_singleton.mpr cleared) cleared

/-- The cycle is the last thing that a reset clears; nobody is told about it. -/
theorem ends_reset {n : Int} {m : Machine} (h : Steady n m) :
    (reset.course m).Ends (Steady n) fun _ => Steady 0 := by
  have stores := stores_keep n
  unfold reset
  refine (stores.fillBytes 0 0 _).ends_bind (fun _ m h => ?_) h
  refine stores.clearDisplay.ends_bind (fun _ m h => ?_) h
  refine (stores.setBytesAs _ _ font).ends_bind (fun _ m h => ?_) h
  refine (stores.clearRegisters _).ends_bind (fun _ m h => ?_) h
  refine (stores.setI 0).ends_bind (fun _ m h => ?_) h
  refine (keeps_setSp_zero n).ends_bind (fun _ m h => ?_) h
  refine (keeps_setPc n 0).ends_bind (fun _ m h => ?_) h
  refine (stores.setDt 0).ends_bind (fun _ m h => ?_) h
  refine (stores.setSt 0).ends_bind (fun _ m h => ?_) h
  have cleared : Steady 0 { m with cycle := 0 } := ⟨h.1, rfl⟩
  simp only [course_bind, course_change, course_report, Course.andThen_ok, Course.behind_nil]
  exact .of_ok (List.forall_mem_singleton.mpr trivial) cleared

end System

namespace Computer

variable {ω : Type}

/-- The timers have a period, and the cycle keeps step with the count of instructions. -/
structure Regular (period : Int) (c : Computer ω) : Prop where
  steady : System.Steady (c.executed % period) c.system.machine
  period_eq : (c.timers.period : Int) = period

variable {period : Int}

/-- What is promised of every state of a driven computer, for timers of a period. -/
structure Proper (period : Int) (c : Computer ω) : Prop where
  sp_even : c.system.machine.sp.toNat % 2 = 0
  sp_le : c.system.machine.sp.toNat ≤ 32
  v_le : ∀ k : VIndex, (c.system.machine.v.get k).toNat ≤ 255
  dt_le : c.system.machine.dt.toNat ≤ 255
  st_le : c.system.machine.st.toNat ≤ 255
  i_le : c.system.machine.i.toNat ≤ 65535
  pc_le : c.system.machine.pc.toNat ≤ 65535
  key_le : ∀ k : Key, c.system.machine.key = some k → k.val ≤ 15
  memory_size : c.system.machine.memory.toList.length = 4096
  cycle_eq : c.system.machine.cycle.value = c.executed % period

theorem Regular.proper {c : Computer ω} (h : c.Regular period) : c.Proper period where
  sp_even := h.steady.1.1
  sp_le := h.steady.1.2
  v_le k := Nat.le_of_lt_succ (c.system.machine.v.get k).toNat_lt
  dt_le := Nat.le_of_lt_succ c.system.machine.dt.toNat_lt
  st_le := Nat.le_of_lt_succ c.system.machine.st.toNat_lt
  i_le := Nat.le_of_lt_succ c.system.machine.i.toNat_lt
  pc_le := Nat.le_of_lt_succ c.system.machine.pc.toNat_lt
  key_le k _ := Nat.le_of_lt_succ k.isLt
  memory_size := c.system.machine.memory.size_toArray
  cycle_eq := h.steady.2

theorem regular_ofSettings {settings : Settings} (hp : settings.timerCycle.toInt = .ok period)
    {generator : Twister} {bus : Bus ω} {c : Computer ω}
    (h : ofSettings settings ⟨.powerOn generator, bus⟩ = .ok c) : c.Regular period := by
  obtain ⟨g, t, ht, _, rfl⟩ := ofSettings_eq_ok h
  have fresh : System.Steady 0 { Machine.powerOn generator with generator := g } :=
    ⟨⟨rfl, Nat.zero_le _⟩, rfl⟩
  rw [hp] at ht
  refine ⟨?_, (Except.ok.inj ht).symm⟩
  rwa [← Int.zero_emod period] at fresh

variable [Observers ω]

theorem preserves_onSystem {α : Type} {a : Action α} (h : ∀ n, a.Keeps (System.Steady n)) :
    Preserves (Regular period) (onSystem a : Task ω α) := fun c hc =>
  ⟨System.run_of_ends (h _ c.system.machine hc.steady), hc.period_eq⟩

/-- An observer who fails before the count leaves cycle and count as they were; from then on the
cycle has moved with the count. -/
theorem preserves_step : Preserves (Regular period) (step : Task ω Decoded) := by
  intro c ⟨steady, hp⟩
  have before := System.run_of_ends (System.keeps_instruction _ c.system.machine steady)
  rw [perform_step]
  cases hi : System.run instruction c.system with
  | mk result s =>
    rw [hi] at before
    cases result with
    | error cause => exact ⟨before, hp⟩
    | ok d =>
      have after := System.run_of_ends (System.ends_advance c.timers before)
      have counted : (c.executed % period + 1) % c.timers.period
          = (c.counted.executed : Int) % period := by
        rw [hp, Int.emod_add_emod, Computer.counted, Int.natCast_succ]
      rw [counted] at after
      dsimp only
      cases ha : System.run c.timers.advance s with
      | mk result' s' =>
        rw [ha] at after
        cases result' <;> exact ⟨after, hp⟩

theorem preserves_reset : Preserves (Regular period) (reset : Task ω Unit) := by
  intro c ⟨steady, hp⟩
  have ends := System.ends_reset steady
  have failed (cause : Fault) := @System.run_error_of_ends _ _ _ _ _ _ _ ends cause
  have cleared := @System.run_ok_of_ends _ _ _ _ _ _ _ ends ()
  rw [reset, perform_bind, perform_onSystem]
  generalize System.run System.reset c.system = r at failed cleared
  obtain ⟨result, s⟩ := r
  cases result with
  | error cause => exact ⟨failed cause rfl, hp⟩
  | ok _ => exact ⟨Int.zero_emod period ▸ cleared rfl, hp⟩

theorem preserves_task (x : Control) : Preserves (Regular period) (task x : Task ω Answer) := by
  have setKey (key : Option Key) (n : Int) :
      (System.change fun m => { m with key := key }).Keeps (System.Steady n) := by
    apply System.steady_of_leaves
    exact .change fun _ => rfl
  cases x with
  | step => exact .bind preserves_step fun _ => .pure _
  | run n => exact .bind (.run preserves_step n) fun _ => .pure _
  | reset => exact .bind preserves_reset fun _ => .pure _
  | releaseKey => exact .bind (preserves_onSystem (setKey none)) fun _ => .pure _
  | pressKey code =>
    refine .bind (preserves_onSystem fun n => ?_) fun _ => .pure _
    exact (System.stores_keep n).press (setKey · n) code
  | loadProgram image =>
    refine .bind (preserves_onSystem fun n => ?_) fun _ => .pure _
    exact (System.stores_keep n).loadProgram (System.keeps_setPc n) image

/-- **Every state of a driven computer is proper.** -/
theorem proper_of_reachable {settings : Settings}
    (hp : settings.timerCycle.toInt = .ok period) {c : Computer ω} (h : Reachable settings c) :
    c.Proper period := by
  suffices hr : c.Regular period from hr.proper
  induction h with
  | start generator bus h => exact regular_ofSettings hp h
  | next h x ih => exact preserves_task x _ ih
  | rewire h bus ih => exact ⟨ih.steady, ih.period_eq⟩

/-- A new computer with one observer, who fails at the second event. -/
def criticised : Computer Cast :=
  let critic := Text.ofString "critic"
  fresh ⟨[⟨.client critic, none⟩], ⟨[(critic, ⟨.fail, 2, [], 0, []⟩)], [], []⟩, []⟩

theorem proper_criticised :
    Settings.standard.timerCycle.toInt = .ok 2
      ∧ Reachable .standard (criticised.obey .step).2 ∧ (criticised.obey .step).2.Proper 2 := by
  have reachable : Reachable .standard (criticised.obey .step).2 := .next (.start .unseeded _ rfl) _
  exact ⟨rfl, reachable, proper_of_reachable rfl reachable⟩

end Computer

end Chip8

import Chip8.Proofs.Calm
import Chip8.Proofs.Runs

/-!
# The law of the timers

Where DT and ST stand after a run, in closed form.

* The two timers differ only in the register and in the instruction that loads it (`Timer`).
* A tick comes when the count of steps reaches a multiple of the period, counted on from the cycle
  at the start: `Timers.ticks` says how many come between two counts.
* `timer_of_turn`: what one step does to a timer. `timer_after` follows one through steps that do
  not load it, and `timer_law` puts the pieces together at the last load.
-/

namespace Chip8

/-- One of the two timers. -/
inductive Timer where
  | delay
  | sound

namespace Timer

def read : Timer → Machine → UInt8
  | .delay, m => m.dt
  | .sound, m => m.st

/-- The operation that gives the timer a new value. -/
def load : Timer → Operation
  | .delay => .setDelay
  | .sound => .setSound

def place : Timer → Place
  | .delay => .dt
  | .sound => .st

theorem read_goTo (w : Timer) (m : Machine) (target : Option Nat) :
    w.read (m.goTo target) = w.read m := by
  cases w <;> rfl

theorem read_advanced (w : Timer) (t : Timers) (m : Machine) :
    w.read (t.advanced m) =
      if (t.count m).cycle.value = 0 ∧ t.enabled then lowered (w.read m) else w.read m := by
  unfold Timers.advanced
  cases w <;> split <;> rfl

/-- The value of a timer after an instruction that found a machine. -/
def after (w : Timer) (d : Decoded) (m : Machine) : UInt8 :=
  if d.operation? = some w.load then m.v.get d.operands.x else w.read m

/-- A timer is written by its own operation only. -/
theorem writes_iff {w : Timer} {op : Operation} {o : Operands} {m : Machine} :
    (op.Writes o m w.place) ↔ op = w.load := by
  cases w <;> exact Iff.rfl

end Timer

/-- The quotient goes up where the remainder starts anew. -/
theorem add_one_ediv {d : Int} (hd : 0 < d) (a : Int) :
    (a + 1) / d = a / d + if (a + 1) % d = 0 then 1 else 0 := by
  have low := Int.emod_nonneg a (Int.ne_of_gt hd)
  have high := Int.emod_lt_of_pos a hd
  have whole := Int.emod_add_mul_ediv a d
  by_cases wraps : a % d + 1 = d
  · have next : 0 + d * (a / d + 1) = a + 1 := by rw [Int.mul_add]; omega
    obtain ⟨hq, hr⟩ := (Int.ediv_emod_unique hd).mpr ⟨next, Int.le_refl 0, hd⟩
    rw [hq, hr, if_pos rfl]
  · have next : (a % d + 1) + d * (a / d) = a + 1 := by omega
    obtain ⟨hq, hr⟩ := (Int.ediv_emod_unique hd).mpr ⟨next, by omega, by omega⟩
    rw [hq, hr, if_neg (by omega), Int.add_zero]

namespace Timers

theorem cycle_advanced (t : Timers) (m : Machine) :
    (t.advanced m).cycle.value = (m.cycle.value + 1) % (t.period : Int) := by
  unfold advanced
  split <;> rfl

/-- How many ticks there are while the count goes from `a` to `b`. -/
def ticks (t : Timers) (a b : Int) : Int :=
  if t.enabled then b / (t.period : Int) - a / (t.period : Int) else 0

/-- Ticks come one at a time. -/
theorem ticks_succ (t : Timers) (a : Int) :
    t.ticks a (a + 1) = if (a + 1) % (t.period : Int) = 0 ∧ t.enabled then 1 else 0 := by
  have hd : (0 : Int) < t.period := Int.natCast_pos.mpr t.period_pos
  unfold ticks
  rw [add_one_ediv hd]
  cases t.enabled <;> simp

theorem ticks_self (t : Timers) (a : Int) : t.ticks a a = 0 := by
  unfold ticks
  split <;> omega

theorem ticks_add (t : Timers) (a b d : Int) : t.ticks a b + t.ticks b d = t.ticks a d := by
  unfold ticks
  split <;> omega

end Timers

namespace Turn

variable {ω : Type}

/-- The value of a timer between the instruction and the tick. -/
def loaded (t : Turn ω) (w : Timer) : UInt8 :=
  if t.Executes w.load then t.machine.v.get t.decoded.operands.x else w.read t.machine

end Turn

namespace System

open Chip8.Action

/-- Wherever an instruction may be cut short, as at its end, each timer has the value that the
instruction gives it: loads write before they tell. -/
theorem ends_execute_timer (w : Timer) (d : Decoded) (m : Machine) :
    ((execute d).course m).Ends (fun m' => w.read m' = w.after d m)
      fun _ m' => w.read m' = w.after d m := by
  unfold Timer.after
  split
  · next loads =>
    have loaded := byteOfInt_toNat (m.v.get d.operands.x)
    rw [execute_eq_perform loads]
    cases w <;>
      simp only [Timer.load, perform, course_bind, course_look, Course.andThen_ok, course_setDt,
        course_setSt, course_pure, Course.behind_mk] <;>
      exact .of_ok (List.forall_mem_singleton.mpr loaded) loaded
  · next other =>
    have unwritten : ¬ d.Writes m w.place := by
      rintro ⟨op, hop, writes⟩
      exact other (Timer.writes_iff.mp writes ▸ hop)
    cases w <;> exact leavesAt_execute unwritten

/-- Only its own operation loads a timer, with the register that it names. -/
theorem read_of_execute (w : Timer) {d : Decoded} {m m' : Machine} {target : Option Nat}
    (h : (execute d).Yields m target m') : w.read m' = w.after d m := by
  obtain ⟨l, h⟩ := h
  have ends := ends_execute_timer w d m
  rw [h] at ends
  exact ends.ok target rfl

end System

namespace Computer

variable {ω : Type} {c : Computer ω}

/-- After a number of steps the cycle is where it started, or that far on. -/
structure Timed (t : Timers) (start : Int) (n : Nat) (c : Computer ω) : Prop where
  timers : c.timers = t
  cycle : c.system.machine.cycle.value = if n = 0 then start else (start + n) % (t.period : Int)

theorem Timed.next {t : Timers} {start : Int} {n : Nat} (h : c.Timed t start n) :
    (c.system.machine.cycle.value + 1) % (t.period : Int) = (start + n + 1) % (t.period : Int) := by
  rw [h.cycle]
  split
  · next zero => rw [zero, Int.natCast_zero, Int.add_zero]
  · rw [Int.emod_add_emod]

variable [Observers ω]

/-- What one step does to a timer. -/
theorem timer_of_turn (ok : c.turn.Succeeds) (w : Timer) {t : Timers} {start : Int} {n : Nat}
    (h : c.Timed t start n) : c.turn.after.Timed t start (n + 1) ∧
      ((w.read c.turn.machineAfter).toNat : Int) =
        max 0 ((c.turn.loaded w).toNat - t.ticks (start + n) (start + n + 1)) := by
  obtain ⟨-, timers, -, target, m, executed, hm⟩ := step_eq_ok (perform_step_of_succeeds ok)
  have cycle : m.cycle = c.system.machine.cycle :=
    (System.leavesAt_execute (p := .cycle) fun ⟨_, _, writes⟩ => writes).of_yields executed
  have counted : (t.count (m.goTo target)).cycle.value = (start + n + 1) % (t.period : Int) := by
    rw [← h.next, ← cycle]
    rfl
  have loaded : w.read m = c.turn.loaded w := System.read_of_execute w executed
  have final : c.turn.machineAfter = t.advanced (m.goTo target) := h.timers ▸ hm
  refine ⟨⟨timers.trans h.timers, ?_⟩, ?_⟩
  · rw [if_neg (Nat.succ_ne_zero n), Int.natCast_succ, ← Int.add_assoc, ← counted]
    exact congrArg (·.cycle.value) final |>.trans (t.cycle_advanced _)
  · rw [final, w.read_advanced, w.read_goTo, loaded, counted, t.ticks_succ]
    split
    · rw [toNat_lowered]
      omega
    · omega

theorem timed_after {t : Timers} {start : Int} {n : Nat} (xs : List Act)
    (ok : ∀ u ∈ c.turns xs, u.Succeeds) (h : c.Timed t start n) :
    (c.after xs).Timed t start (n + (c.turns xs).length) := by
  refine after_induction (P := fun n c => c.Timed t start n) ?_ ?_ xs ok h
  · intro n c x h
    obtain ⟨key, generator, hc⟩ := c.give_eq x
    exact hc ▸ ⟨h.timers, h.cycle⟩
  · exact fun n c ok h => (timer_of_turn ok .delay h).1

/-- A timer that no step loads goes down by the ticks, as far as zero. -/
theorem timer_after {w : Timer} {t : Timers} {start origin value : Int} {n : Nat}
    (xs : List Act) (ok : ∀ u ∈ c.turns xs, u.Succeeds)
    (unloaded : ∀ u ∈ c.turns xs, ¬ u.Executes w.load) (timed : c.Timed t start n)
    (h : ((w.read c.system.machine).toNat : Int) = max 0 (value - t.ticks origin (start + n))) :
    ((w.read (c.after xs).system.machine).toNat : Int) =
      max 0 (value - t.ticks origin (start + (n + (c.turns xs).length : Nat))) := by
  have run := after_induction (Q := fun u => u.Succeeds ∧ ¬ u.Executes w.load)
    (P := fun n c => c.Timed t start n ∧
      ((w.read c.system.machine).toNat : Int) = max 0 (value - t.ticks origin (start + n)))
    ?_ ?_ xs (fun u hu => ⟨ok u hu, unloaded u hu⟩) ⟨timed, h⟩
  · exact run.2
  · intro n c x ⟨timed, h⟩
    obtain ⟨key, generator, hc⟩ := c.give_eq x
    rw [hc]
    refine ⟨⟨timed.timers, timed.cycle⟩, ?_⟩
    cases w <;> exact h
  · intro n c ⟨ok, unloaded⟩ ⟨timed, h⟩
    obtain ⟨timed', h'⟩ := timer_of_turn ok w timed
    have kept : c.turn.loaded w = w.read c.system.machine := if_neg unloaded
    have ticks := t.ticks_add origin (start + n) (start + n + 1)
    have down : 0 ≤ t.ticks (start + n) (start + n + 1) := by
      rw [t.ticks_succ]
      split <;> omega
    refine ⟨timed', ?_⟩
    rw [kept, h] at h'
    rw [Int.natCast_succ, ← Int.add_assoc]
    refine h'.trans ?_
    omega

/-- From the step that loads it on, a timer goes down by the ticks. -/
theorem timer_since_load {w : Timer} {t : Timers} {start : Int} {n : Nat}
    (ok : c.turn.Succeeds) (loads : c.turn.Executes w.load) (timed : c.Timed t start n)
    (xs : List Act) (ok_later : ∀ u ∈ c.turn.after.turns xs, u.Succeeds)
    (unloaded : ∀ u ∈ c.turn.after.turns xs, ¬ u.Executes w.load) :
    ((w.read (c.turn.after.after xs).system.machine).toNat : Int) =
      max 0 ((c.turn.machine.v.get c.turn.decoded.operands.x).toNat
        - t.ticks (start + n) (start + (n + 1 + (c.turn.after.turns xs).length : Nat))) := by
  obtain ⟨timed', ticked⟩ := timer_of_turn ok w timed
  have loaded : c.turn.loaded w = c.turn.machine.v.get c.turn.decoded.operands.x := if_pos loads
  rw [loaded, Int.add_assoc, ← Int.natCast_succ] at ticked
  exact timer_after xs ok_later unloaded timed' ticked

/-- **The law of the timers.** Over `n` steps the cycle goes on by `n`, and a timer has lost one for
each tick since it was loaded last, or since the start. -/
theorem timer_law (c : Computer ω) (xs : List Act) (ok : ∀ u ∈ c.turns xs, u.Succeeds)
    (stepped : c.turns xs ≠ []) (w : Timer) :
    let t := c.timers
    let start := c.system.machine.cycle.value
    let n := (c.turns xs).length
    let last := (c.after xs).system.machine
    last.cycle.value = (start + n) % (t.period : Int)
      ∧ ((∀ u ∈ c.turns xs, ¬ u.Executes w.load) →
        ((w.read last).toNat : Int) =
          max 0 ((w.read c.system.machine).toNat - t.ticks start (start + n)))
      ∧ ∀ before u later, c.turns xs = before ++ u :: later → u.Executes w.load →
        (∀ u' ∈ later, ¬ u'.Executes w.load) →
        ((w.read last).toNat : Int) = max 0 ((u.machine.v.get u.decoded.operands.x).toNat
          - t.ticks (start + before.length) (start + n)) := by
  intro t start n last
  have begun : c.Timed t start 0 := ⟨rfl, rfl⟩
  refine ⟨?_, fun unloaded => ?_, fun before u later cut loads unloaded => ?_⟩
  · have moved := (timed_after xs ok begun).cycle
    rwa [Nat.zero_add, if_neg (mt List.length_eq_zero_iff.mp stepped)] at moved
  · have held : ((w.read c.system.machine).toNat : Int) =
        max 0 ((w.read c.system.machine).toNat - t.ticks start (start + (0 : Nat))) := by
      rw [Int.natCast_zero, Int.add_zero, t.ticks_self]
      omega
    have law := timer_after xs ok unloaded begun held
    rwa [Nat.zero_add] at law
  · obtain ⟨ys, zs, hys, rfl, hzs, ends⟩ := turns_eq_append_cons cut
    have length : before.length + 1 + later.length = n := by
      simp only [n, cut, List.length_append, List.length_cons]
      omega
    rw [cut] at ok
    obtain ⟨ok_before, ok⟩ := List.forall_mem_append.mp ok
    obtain ⟨ok_load, ok_later⟩ := List.forall_mem_cons.mp ok
    have reached := timed_after ys (hys ▸ ok_before) begun
    rw [hys, Nat.zero_add] at reached
    have law := timer_since_load ok_load loads reached zs (hzs ▸ ok_later) (hzs ▸ unloaded)
    rwa [ends, hzs, length] at law

/-- A computer about to set V0 to 5 and to load it into DT; the cycle stands far outside the
period. -/
def metered : Computer Transcript :=
  let program : List UInt8 := [0x60, 0x05, 0xF0, 0x15]
  let memory : Memory := Memory.store (Vector.replicate memorySize 0) 0 program
  let machine : Machine := { Machine.powerOn .unseeded with memory := memory, cycle := 7, st := 1 }
  let bus : Bus Transcript := ⟨[⟨.monitor, none⟩], ⟨[]⟩, []⟩
  { fresh bus with system := ⟨machine, bus⟩ }

/-- Four steps of the metered computer: DT is loaded by the second and ticks at the third, ST is at
one and ticks at the first and at the third. -/
theorem timer_law_metered :
    let xs : List Act := [.step, .step, .give .release, .step, .step]
    let last := (metered.after xs).system.machine
    (∀ u ∈ metered.turns xs, u.Succeeds) ∧ metered.turns xs ≠ []
      ∧ last.cycle.value = (7 + 4) % 2 ∧ last.dt.toNat = 4 ∧ last.st.toNat = 0 := by
  intro xs last
  have ok : ∀ u ∈ metered.turns xs, u.Succeeds := by decide +kernel
  have stepped : metered.turns xs ≠ [] := List.cons_ne_nil _ _
  obtain ⟨cycle, -, delay⟩ := timer_law metered xs ok stepped .delay
  obtain ⟨-, sound, -⟩ := timer_law metered xs ok stepped .sound
  have dt := delay ((metered.turns xs).take 1) ((metered.turns xs)[1]) ((metered.turns xs).drop 2)
    rfl (by decide +kernel) (by decide +kernel)
  have st := sound (by decide +kernel)
  exact ⟨ok, stepped, cycle, Int.natCast_inj.mp (dt.trans (by decide +kernel)),
    Int.natCast_inj.mp (st.trans (by decide +kernel))⟩

end Computer

end Chip8

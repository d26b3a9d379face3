import Chip8.Proofs.Noninterference
import Chip8.Proofs.Runs

/-!
# Input from the host

Keys and seeds act through the instructions that read them, and through nothing else.

* `Veil.host` hides the pending key, the generator, or both; `Veil.carries` says which inputs reach
  only what is hidden.
* `Computer.wholeStep` is all that a step does to its system, so its course lists the events of a
  turn.
* `alike_turns`: two runs that differ in carried inputs alone stay in lock step, however these are
  spread, as long as no instruction reads what they reach.
-/

namespace Chip8

namespace Veil

/-- The veil over the pending key, the generator, or both. -/
def host (key generator : Bool) : Veil := ⟨false, false, key, generator⟩

/-- The act is an input that reaches hidden parts alone. -/
def carries (d : Veil) : Act → Bool
  | .give (.press _) | .give .release => d.key
  | .give (.reseed _) => d.generator
  | .step => false

end Veil

variable {ω : Type}

namespace Computer

/-- All that a step does to the system. -/
def wholeStep (t : Timers) : Action Decoded := do
  let e ← instruction
  let _ ← t.advance
  return e

end Computer

/-- The events of a turn in which no observer fails, in order. -/
def Turn.events (t : Turn ω) : List Event :=
  ((Computer.wholeStep t.before.timers).course t.machine).events

namespace Computer

variable [Observers ω] {d : Veil} {B : Bus ω → Bus ω → Prop} {counted : Prop}

theorem perform_step_eq_run (c : Computer ω) :
    System.run (wholeStep c.timers) c.system = ((perform step c).1, (perform step c).2.system) := by
  rw [perform_step, wholeStep, System.run_bind]
  cases h : System.run instruction c.system with
  | mk result s =>
    cases result with
    | error cause => rfl
    | ok e =>
      dsimp only
      rw [System.run_bind]
      cases h' : System.run c.timers.advance s with
      | mk result' s' => cases result' <;> rfl

theorem alike_wholeStep {m m' : Machine} (t : Timers) (h : m.Alike d m')
    (admits : ∀ op, (fetched m).operation? = some op → d.Admits op) :
    ((wholeStep t).course m).Alike d ((wholeStep t).course m') := by
  rw [wholeStep, Action.course_bind, Action.course_bind]
  exact (alike_instruction h admits).andThen fun e m m' h =>
    Action.Alike.bind t.alike_advance (fun _ => .pure e) m m' h

/-- An input on both sides leads from alike computers to alike computers. -/
theorem Alike.give (onlookers : Onlookers d B) {c c' : Computer ω} (h : c.Alike d B counted c')
    (x : Input) : (c.give x).Alike d B counted (c'.give x) := by
  cases x with
  | press code => exact (matches_onSystem onlookers (System.alike_press code) c c' h).2
  | release => exact (matches_onSystem onlookers (System.alike_setKey none) c c' h).2
  | reseed g => exact (matches_onSystem onlookers (System.alike_setGenerator g) c c' h).2

/-- A carried input alters nothing that is shown. -/
theorem give_of_carries {x : Input} (h : d.carries (.give x)) (c : Computer ω) :
    ∃ m, c.system.machine.Alike d m ∧
      c.give x = { c with system := { c.system with machine := m } } := by
  have same := Machine.Alike.refl d c.system.machine
  have setKey (hidden : d.key = true) (key : Option Key) :
      c.system.machine.Alike d { c.system.machine with key := key } :=
    { same with key := fun shown => nomatch hidden.symm.trans shown }
  have setGenerator (hidden : d.generator = true) (g : Twister) :
      c.system.machine.Alike d { c.system.machine with generator := g } :=
    { same with generator := fun shown => nomatch hidden.symm.trans shown }
  cases x with
  | release => exact ⟨_, setKey h none, rfl⟩
  | reseed g => exact ⟨_, setGenerator h g, rfl⟩
  | press code =>
    cases code with
    | none => exact ⟨_, setKey h none, rfl⟩
    | some code =>
      simp only [Computer.give, pressKey, perform_onSystem, System.press]
      cases code.key? with
      | none => exact ⟨_, same, rfl⟩
      | some k => exact ⟨_, setKey h (some k), rfl⟩

theorem Alike.give_left {c c' : Computer ω} (h : c.Alike d B counted c') {x : Input}
    (hx : d.carries (.give x)) : (c.give x).Alike d B counted c' := by
  obtain ⟨m, hm, hc⟩ := give_of_carries hx c
  rw [hc]
  exact ⟨⟨hm.symm.trans h.system.machine, h.system.bus⟩, h.timers, h.executed⟩

theorem Alike.give_right {c c' : Computer ω} (h : c.Alike d B counted c') {x : Input}
    (hx : d.carries (.give x)) : c.Alike d B counted (c'.give x) := by
  obtain ⟨m, hm, hc⟩ := give_of_carries hx c'
  rw [hc]
  exact ⟨⟨h.system.machine.trans hm, h.system.bus⟩, h.timers, h.executed⟩

/-- Carried inputs before other acts are no steps, and lead to a computer that is as alike. -/
theorem turns_append_of_carries {l : List Act} (hidden : ∀ x ∈ l, d.carries x)
    {c c' : Computer ω} (h : c.Alike d B counted c') (zs : List Act) :
    ∃ c'' : Computer ω, c.Alike d B counted c'' ∧ c'.turns (l ++ zs) = c''.turns zs := by
  induction l generalizing c' with
  | nil => exact ⟨c', h, rfl⟩
  | cons x rest ih =>
    obtain ⟨hx, hrest⟩ := List.forall_mem_cons.mp hidden
    cases x with
    | step => cases hx
    | give x => exact ih hrest (h.give_right hx)

/-- Two turns that go alike: they execute the same instruction, tell the same events, and lead from
alike computers to alike ones. -/
structure Abreast (d : Veil) (B : Bus ω → Bus ω → Prop) (t t' : Turn ω) : Prop where
  result : t.result = t'.result
  events : t.events = t'.events
  before : t.before.Alike d B True t'.before
  after : t.after.Alike d B True t'.after

theorem alike_turn (onlookers : Onlookers d B) (shown : d.sound = false) {c c' : Computer ω}
    (h : c.Alike d B True c') (admits : ∀ op, c.turn.Executes op → d.Admits op) :
    Abreast d B c.turn c'.turn := by
  obtain ⟨result, after⟩ := alike_step onlookers h admits
  have course := alike_wholeStep c.timers h.system.machine admits
  refine ⟨result, ?_, h, after⟩
  have timers : (wholeStep c.timers).course c'.system.machine =
      (wholeStep c'.timers).course c'.system.machine := by rw [h.timers]
  exact (course.events_eq shown).trans (congrArg Course.events timers)

theorem alike_turns (onlookers : Onlookers d B) (shown : d.sound = false) (xs : List Act) :
    ∀ (ys : List Act) {c c' : Computer ω}, c.Alike d B True c' →
      xs.filter (!d.carries ·) = ys.filter (!d.carries ·) →
      (∀ t ∈ c.turns xs, ∀ op, t.Executes op → d.Admits op) →
      List.Forall₂ (Abreast d B) (c.turns xs) (c'.turns ys) := by
  induction xs with
  | nil =>
    intro ys c c' h same _
    have hidden : ∀ x ∈ ys, d.carries x := by simpa using same.symm
    obtain ⟨_, -, none⟩ := turns_append_of_carries hidden h []
    rw [List.append_nil] at none
    rw [none]
    exact .nil
  | cons x rest ih =>
    intro ys c c' h same admits
    by_cases hx : d.carries x
    · rw [List.filter_cons_of_neg (by simp [hx])] at same
      cases x with
      | step => cases hx
      | give x => exact ih ys (h.give_left hx) same admits
    · rw [List.filter_cons_of_pos (by simp [hx])] at same
      obtain ⟨l, zs, rfl, hidden, -, later⟩ := List.filter_eq_cons_iff.mp same.symm
      have carried : ∀ y ∈ l, d.carries y := fun y hy => by simpa using hidden y hy
      obtain ⟨c'', h, turns⟩ := turns_append_of_carries carried h (x :: zs)
      rw [turns]
      cases x with
      | give x => exact ih zs (h.give onlookers x) later.symm admits
      | step =>
        obtain ⟨first, rest⟩ := List.forall_mem_cons.mp admits
        have abreast := alike_turn onlookers shown h first
        exact .cons abreast (ih zs abreast.after later.symm rest)

/-- **Keys and seeds act through the instructions that read them alone.** Carried inputs may be put
in, taken out or moved as one likes. -/
theorem host_input_confined (key generator : Bool) (onlookers : Onlookers (.host key generator) B)
    {c : Computer ω} (bus : B c.system.bus c.system.bus) {xs ys : List Act}
    (same : xs.filter (!(Veil.host key generator).carries ·) =
      ys.filter (!(Veil.host key generator).carries ·))
    (unread : ∀ t ∈ c.turns xs, ∀ op, t.Executes op → (Veil.host key generator).Admits op) :
    List.Forall₂ (fun t t' => t.result = t'.result ∧ t.events = t'.events ∧
      t.machineAfter.Alike (.host key generator) t'.machineAfter ∧
      t.after.executed = t'.after.executed ∧ B t.after.system.bus t'.after.system.bus)
      (c.turns xs) (c.turns ys) := by
  have start : c.Alike (.host key generator) B True c :=
    ⟨⟨.refl _ _, bus⟩, rfl, fun _ => rfl⟩
  refine (alike_turns onlookers rfl xs ys start same unread).imp fun t t' h => ?_
  exact ⟨h.result, h.events, h.after.system.machine, h.after.executed trivial, h.after.system.bus⟩

/-- A computer about to set V0 and to sound. -/
def tuned : Computer Transcript :=
  let program : List UInt8 := [0x60, 0x05, 0xF0, 0x18]
  let memory : Memory := Memory.store (Vector.replicate memorySize 0) 0 program
  let bus : Bus Transcript := ⟨[⟨.monitor, none⟩], ⟨[]⟩, []⟩
  { fresh bus with system := ⟨{ Machine.powerOn .unseeded with memory := memory }, bus⟩ }

/-- Without input, and with a seed, a released key and a second seed on the way. -/
theorem host_input_confined_tuned :
    let xs : List Act := [.step, .step]
    let seed : Act := .give (.reseed .unseeded)
    let ys : List Act := [seed, .step, .give .release, seed, .step]
    (∀ t ∈ tuned.turns xs, t.Executes .setByte ∨ t.Executes .setSound) ∧
      List.Forall₂ (fun t t' => t.result = t'.result ∧ t.events = t'.events ∧
        t.machineAfter.Alike (.host true true) t'.machineAfter ∧
        t.after.executed = t'.after.executed ∧ t.after.system.bus = t'.after.system.bus)
        (tuned.turns xs) (tuned.turns ys) := by
  intro xs seed ys
  have executed : ∀ t ∈ tuned.turns xs, t.Executes .setByte ∨ t.Executes .setSound := by
    decide +kernel
  have unread : ∀ t ∈ tuned.turns xs, ∀ op, t.Executes op → (Veil.host true true).Admits op := by
    intro t ht op hop
    rcases executed t ht with h | h <;> obtain rfl := Option.some.inj (h.symm.trans hop) <;> trivial
  have same : xs.filter (!(Veil.host true true).carries ·) =
      ys.filter (!(Veil.host true true).carries ·) := rfl
  have onlookers : Onlookers (.host true true) fun b b' : Bus Transcript => b = b' :=
    onlookers_of_blind rfl fun _ _ _ _ _ _ => rfl
  exact ⟨executed, host_input_confined true true onlookers rfl same unread⟩

end Computer

end Chip8

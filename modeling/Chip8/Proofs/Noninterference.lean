import Mathlib.Data.List.Forall2
import Chip8.Proofs.Calm
import Chip8.Proofs.Lockstep

/-!
# What no program can find out

Two computers that differ only in hidden parts answer every request alike, for good.

* `Onlookers`: observers to whom the hidden parts mean nothing. Calm ones are such
  (`onlookers_of_calm`), and so are those who look at nothing that is hidden
  (`onlookers_of_blind`).
* `Course.Alike.play`: courses that go the same way, played to such observers, come to the same end.
* `Computer.Matches`: from alike computers a task has one result and leads to alike computers.
  `alike_step` holds for instructions that the veil admits.
* `inert_unobservable`: nothing is ever found out about ST and the upper bits of I.
-/

namespace Chip8

variable {ω : Type}

namespace Computer

variable {α β : Type} {R : Computer ω → Computer ω → Prop}

/-- From related computers the task has one result and leads to related computers. -/
def Matches (R : Computer ω → Computer ω → Prop) (t : Task ω α) : Prop :=
  ∀ c c', R c c' → (perform t c).1 = (perform t c').1 ∧ R (perform t c).2 (perform t c').2

theorem Matches.pure (x : α) : Matches R (pure x : Task ω α) := fun _ _ h => ⟨rfl, h⟩

theorem Matches.bind {t : Task ω α} {f : α → Task ω β} (ht : Matches R t)
    (hf : ∀ x, Matches R (f x)) : Matches R (t >>= f) := by
  intro c c' h
  obtain ⟨same, after⟩ := ht c c' h
  rw [perform_bind, perform_bind]
  generalize perform t c = outcome at same after ⊢
  generalize perform t c' = outcome' at same after ⊢
  obtain ⟨result, c⟩ := outcome
  obtain ⟨result', c'⟩ := outcome'
  obtain rfl : result = result' := same
  cases result with
  | ok x => exact hf x c c' after
  | error cause => exact ⟨rfl, after⟩

theorem Matches.modify {f : Computer ω → Computer ω} (h : ∀ c c', R c c' → R (f c) (f c')) :
    Matches R (modify f : Task ω Unit) := fun c c' hc => ⟨rfl, h c c' hc⟩

end Computer

variable [Observers ω]

/-- Observers take alike machines for the same: what they answer is the same, and what they remember
stays related. Of changes of a hidden ST they take no notice. -/
structure Onlookers (d : Veil) (B : Bus ω → Bus ω → Prop) : Prop where
  report : ∀ {b b' : Bus ω} (r : LogRecord), B b b' → B (b.report r) (b'.report r)
  emit : ∀ {b b' : Bus ω} {m m' : Machine} (e : Event), m.Alike d m' → B b b' →
    (b.emit m e).1 = (b'.emit m' e).1 ∧ B (b.emit m e).2 (b'.emit m' e).2
  left : ∀ {b b' : Bus ω} (m : Machine), d.sound = true → B b b' →
    (b.emit m (.register .st)).1 = .ok () ∧ B (b.emit m (.register .st)).2 b'
  right : ∀ {b b' : Bus ω} (m : Machine), d.sound = true → B b b' →
    (b'.emit m (.register .st)).1 = .ok () ∧ B b (b'.emit m (.register .st)).2

variable {d : Veil} {B : Bus ω → Bus ω → Prop}

theorem onlookers_of_calm (calm : Observers.Calm ω) :
    Onlookers d fun _ _ : Bus ω => True where
  report _ _ := trivial
  emit e _ _ := ⟨(calm _ e _).trans (calm _ e _).symm, trivial⟩
  left m _ _ := ⟨calm m _ _, trivial⟩
  right m _ _ := ⟨calm m _ _, trivial⟩

theorem Bus.emit_eq_of_blind (blind : ∀ who e (m m' : Machine) (memory : ω), m.Alike d m' →
      Observers.react who e m memory = Observers.react who e m' memory)
    {m m' : Machine} (h : m.Alike d m') (e : Event) (b : Bus ω) : b.emit m e = b.emit m' e := by
  have told (notify : Event → Bus ω → Outcome ω) (e : Event) (l : Subscriptions) (b : Bus ω) :
      deliver notify m e l b = deliver notify m' e l b := by
    induction l generalizing b with
    | nil => rfl
    | cons s rest ih => simp only [deliver, blind _ _ m m' _ h, ih]
  suffices within : ∀ n e (b : Bus ω), emitWithin m n e b = emitWithin m' n e b from within _ e b
  intro n
  induction n with
  | zero => exact fun _ _ => rfl
  | succ n ih =>
    intro e b
    rw [emitWithin, emitWithin, funext fun e => funext (ih e), told]

/-- Observers who see nothing hidden, and are told about ST, cannot even remember a difference. -/
theorem onlookers_of_blind (shown : d.sound = false)
    (blind : ∀ who e (m m' : Machine) (memory : ω), m.Alike d m' →
      Observers.react who e m memory = Observers.react who e m' memory) :
    Onlookers d fun b b' : Bus ω => b = b' where
  report r h := congrArg (·.report r) h
  emit e h hb := by
    rw [hb, Bus.emit_eq_of_blind blind h]
    exact ⟨rfl, rfl⟩
  left _ hidden := nomatch shown.symm.trans hidden
  right _ hidden := nomatch shown.symm.trans hidden

namespace System

/-- The machines are alike, and the buses related. -/
structure Alike (d : Veil) (B : Bus ω → Bus ω → Prop) (s s' : System ω) : Prop where
  machine : s.machine.Alike d s'.machine
  bus : B s.bus s'.bus

end System

theorem Course.Alike.play {α : Type} (onlookers : Onlookers d B) {c c' : Course α}
    (h : c.Alike d c') {b b' : Bus ω} (hb : B b b') :
    (c.play b).1 = (c'.play b').1 ∧ (c.play b).2.Alike d B (c'.play b').2 := by
  obtain ⟨l, result, last⟩ := c
  obtain ⟨l', result', last'⟩ := c'
  obtain ⟨moments, rfl, machine⟩ := h
  simp only [Course.play] at *
  induction moments generalizing b b' with
  | nil => exact ⟨rfl, machine, hb⟩
  | @both m m' t _ _ hm _ ih =>
    cases t with
    | record r => exact ih (onlookers.report r hb)
    | event e =>
      obtain ⟨same, hb⟩ := onlookers.emit e hm hb
      simp only [playOn]
      generalize b.emit m e = outcome at same hb ⊢
      generalize b'.emit m' e = outcome' at same hb ⊢
      obtain ⟨answer, b⟩ := outcome
      obtain ⟨answer', b'⟩ := outcome'
      obtain rfl : answer = answer' := same
      cases answer with
      | ok => exact ih hb
      | error cause => exact ⟨rfl, hm, hb⟩
  | left m hidden _ ih =>
    obtain ⟨passed, hb⟩ := onlookers.left m hidden hb
    simp only [playOn]
    generalize b.emit m (.register .st) = outcome at passed hb ⊢
    obtain ⟨answer, b⟩ := outcome
    obtain rfl : answer = .ok () := passed
    exact ih hb
  | right m hidden _ ih =>
    obtain ⟨passed, hb⟩ := onlookers.right m hidden hb
    simp only [playOn]
    generalize b'.emit m (.register .st) = outcome at passed hb ⊢
    obtain ⟨answer, b'⟩ := outcome
    obtain rfl : answer = .ok () := passed
    exact ih hb

theorem System.alike_run {α : Type} (onlookers : Onlookers d B) {a a' : Action α}
    {s s' : System ω} (h : (a.course s.machine).Alike d (a'.course s'.machine))
    (hb : B s.bus s'.bus) :
    (run a s).1 = (run a' s').1 ∧ (run a s).2.Alike d B (run a' s').2 := by
  rw [run_eq_play, run_eq_play]
  exact h.play onlookers hb

namespace Computer

variable {α β : Type}

/-- The computers have alike systems and the same timers, and the same count if one was kept. -/
structure Alike (d : Veil) (B : Bus ω → Bus ω → Prop) (counted : Prop) (c c' : Computer ω) :
    Prop where
  system : c.system.Alike d B c'.system
  timers : c.timers = c'.timers
  executed : counted → c.executed = c'.executed

variable {R : Computer ω → Computer ω → Prop} {counted : Prop}

theorem Matches.steps (h : Matches R (step : Task ω Decoded)) :
    ∀ n, Matches R (steps n : Task ω Unit) := by
  intro n
  induction n with
  | zero => exact .pure ()
  | succ n ih => exact .bind h fun _ => ih

theorem matches_onSystem (onlookers : Onlookers d B) {a : Action α} (h : Action.Alike d a a) :
    Matches (Alike d B counted) (onSystem a : Task ω α) := by
  intro c c' hc
  obtain ⟨same, system⟩ := System.alike_run onlookers (h _ _ hc.system.machine) hc.system.bus
  exact ⟨same, system, hc.timers, hc.executed⟩

/-- Alike computers take the same step, if the veil admits it. -/
theorem alike_step (onlookers : Onlookers d B) {c c' : Computer ω} (h : c.Alike d B counted c')
    (admits : ∀ op, (fetched c.system.machine).operation? = some op → d.Admits op) :
    (perform step c).1 = (perform step c').1 ∧
      (perform step c).2.Alike d B counted (perform step c').2 := by
  obtain ⟨same, system⟩ := System.alike_run onlookers
    (alike_instruction h.system.machine admits) h.system.bus
  have executed := fun hc => congrArg (· + 1) (h.executed hc)
  have timers : c'.timers.advance = c.timers.advance := by rw [h.timers]
  rw [perform_step, perform_step, timers]
  generalize System.run instruction c.system = outcome at same system ⊢
  generalize System.run instruction c'.system = outcome' at same system ⊢
  obtain ⟨result, s⟩ := outcome
  obtain ⟨result', s'⟩ := outcome'
  obtain rfl : result = result' := same
  cases result with
  | error cause => exact ⟨rfl, system, h.timers, h.executed⟩
  | ok e =>
    obtain ⟨same, system⟩ := System.alike_run onlookers
      (c.timers.alike_advance _ _ system.machine) system.bus
    dsimp only
    generalize System.run c.timers.advance s = outcome at same system ⊢
    generalize System.run c.timers.advance s' = outcome' at same system ⊢
    obtain ⟨result, s⟩ := outcome
    obtain ⟨result', s'⟩ := outcome'
    obtain rfl : result = result' := same
    cases result <;> exact ⟨rfl, system, h.timers, executed⟩

/-- Requests meet alike computers alike, if the veil admits every operation. -/
theorem matches_task (onlookers : Onlookers d B) (admits : ∀ op, d.Admits op) (x : Control) :
    Matches (Alike d B counted) (task x : Task ω Answer) := by
  have step : Matches (Alike d B counted) (step : Task ω Decoded) := fun c c' h =>
    alike_step onlookers h fun op _ => admits op
  cases x with
  | step => exact .bind step fun _ => .pure _
  | run n => exact .bind (.bind (.steps step _) fun _ => .pure _) fun _ => .pure _
  | loadProgram image =>
    exact .bind (matches_onSystem onlookers (System.alike_loadProgram image)) fun _ => .pure _
  | pressKey code =>
    exact .bind (matches_onSystem onlookers (System.alike_press code)) fun _ => .pure _
  | releaseKey =>
    exact .bind (matches_onSystem onlookers (System.alike_setKey none)) fun _ => .pure _
  | reset =>
    have clear : Matches (Alike d B counted)
        (modify fun c => { c with executed := 0 } : Task ω Unit) :=
      .modify fun c c' h => ⟨h.system, h.timers, fun _ => rfl⟩
    exact .bind (.bind (matches_onSystem onlookers System.alike_reset) fun _ => clear)
      fun _ => .pure _

/-- The answers to requests met one after another, faults included, each with the computer then. -/
def answers (c : Computer ω) : List Control → List (Except Fault Answer × Computer ω)
  | [] => []
  | x :: rest => c.obey x :: answers (c.obey x).2 rest

theorem alike_answers (onlookers : Onlookers d B) (admits : ∀ op, d.Admits op)
    (xs : List Control) {c c' : Computer ω} (h : c.Alike d B counted c') :
    List.Forall₂ (fun r r' => r.1 = r'.1 ∧ r.2.Alike d B counted r'.2) (c.answers xs)
      (c'.answers xs) := by
  induction xs generalizing c c' with
  | nil => exact .nil
  | cons x rest ih =>
    have met := matches_task onlookers admits x c c' h
    exact .cons met (ih met.2)

/-- **Nothing is ever found out about ST and the upper bits of I.** -/
theorem inert_unobservable (onlookers : Onlookers .inert B) {c c' : Computer ω}
    (timers : c.timers = c'.timers) (machines : c.system.machine.Alike .inert c'.system.machine)
    (buses : B c.system.bus c'.system.bus) (xs : List Control) :
    List.Forall₂ (fun r r' => r.1 = r'.1 ∧
      r.2.system.machine.Alike .inert r'.2.system.machine ∧
      (c.executed = c'.executed → r.2.executed = r'.2.executed)) (c.answers xs)
      (c'.answers xs) := by
  have start : c.Alike .inert B (c.executed = c'.executed) c' := ⟨⟨machines, buses⟩, timers, id⟩
  refine (alike_answers onlookers Veil.admits_inert xs start).imp ?_
  exact fun r r' ⟨same, alike⟩ => ⟨same, alike.system.machine, alike.executed⟩

/-- A computer in which I points just past the end of memory, and which makes a sound. -/
def humming : Computer Transcript :=
  let bus : Bus Transcript := ⟨[⟨.monitor, none⟩], ⟨[]⟩, []⟩
  { fresh bus with system := ⟨{ Machine.powerOn .unseeded with i := 0x1002, st := 9 }, bus⟩ }

/-- Next to one at power-on, but for I at the same place. -/
theorem inert_unobservable_humming :
    let bus : Bus Transcript := ⟨[⟨.monitor, none⟩], ⟨[]⟩, []⟩
    let quiet : Computer Transcript :=
      { fresh bus with system := ⟨{ Machine.powerOn .unseeded with i := 2 }, bus⟩ }
    let xs : List Control := [.run 3, .loadProgram [0xF1, 0x55], .step, .pressKey none, .reset]
    humming.system.machine.Alike .inert quiet.system.machine ∧
      List.Forall₂ (fun r r' => r.1 = r'.1 ∧
        r.2.system.machine.Alike .inert r'.2.system.machine ∧
        (humming.executed = quiet.executed → r.2.executed = r'.2.executed)) (humming.answers xs)
        (quiet.answers xs) := by
  intro bus quiet xs
  have same_place : (0x1002 : UInt16).toNat % memorySize = (2 : UInt16).toNat % memorySize := by
    decide
  have alike : humming.system.machine.Alike .inert quiet.system.machine :=
    ⟨rfl, rfl, rfl, rfl, rfl, rfl, same_place, nofun, nofun, fun _ => rfl, fun _ => rfl⟩
  have timers : humming.timers = quiet.timers := rfl
  exact ⟨alike, inert_unobservable (onlookers_of_calm calm_transcript) timers alike trivial xs⟩

end Computer

end Chip8

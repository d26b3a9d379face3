import Chip8.Clock.FreeRun
import Chip8.Proofs.Course

/-!
# Computers under control

What can be asked of a computer from outside, and how its tasks run.

* `Control` lists the requests; `Computer.obey` meets one, and a fault keeps what was done.
* `perform_step`: a step is the instruction at PC, then the count, then the timers.
* `Preserves`: a property of the computer holds after the task, with a result or with a fault, if
  it held before. What a step preserves, any number of steps does (`Preserves.run`).
* `Reachable` are the computers to which requests lead from a machine at power-on.
-/

namespace Chip8

/-- What can be asked of a computer. -/
inductive Control where
  | loadProgram (image : List UInt8)
  | step
  | run (count : Int)
  | pressKey (code : Option KeyCode)
  | releaseKey
  | reset

/-- What a computer answers. -/
inductive Answer where
  | nothing
  | instruction (d : Decoded)
  | count (n : Nat)

namespace Computer

variable {ω α β : Type}

/-- A computer with the standard settings, a machine at power-on, and a bus. -/
def fresh (bus : Bus ω) : Computer ω where
  system := ⟨.powerOn .unseeded, bus⟩
  settings := .standard
  timers := ⟨2, true, by decide⟩
  executed := 0

theorem seeded_eq_ok {settings : Settings} {s s' : System ω} (h : seeded settings s = .ok s') :
    ∃ g : Twister, s' = { s with machine := { s.machine with generator := g } } := by
  unfold seeded at h
  cases hs : settings.seed.seed with
  | error cause => rw [hs] at h; cases h
  | ok seed =>
    rw [hs] at h
    cases seed with
    | none => exact ⟨s.machine.generator, (Except.ok.inj h).symm⟩
    | some n => exact ⟨.ofSeed n, (Except.ok.inj h).symm⟩

theorem timers_ofJson_eq_ok {v : Json} {enabled : Bool} {t : Timers}
    (h : Timers.ofJson v enabled = .ok t) :
    v.toInt = .ok (t.period : Int) ∧ t.enabled = enabled := by
  unfold Timers.ofJson at h
  cases hv : v.toInt with
  | error cause => rw [hv] at h; cases h
  | ok n =>
    rw [hv] at h
    simp only [Timers.ofPeriod] at h
    split at h
    · obtain rfl := Except.ok.inj h
      refine ⟨congrArg _ ?_, rfl⟩
      simp only
      omega
    · cases h

/-- A new computer has the system's machine with some generator, and counts from zero. -/
theorem ofSettings_eq_ok {settings : Settings} {s : System ω} {c : Computer ω}
    (h : ofSettings settings s = .ok c) :
    ∃ (g : Twister) (t : Timers), settings.timerCycle.toInt = .ok (t.period : Int) ∧
      t.enabled = true ∧
      c = ⟨{ s with machine := { s.machine with generator := g } }, settings, t, 0⟩ := by
  unfold ofSettings at h
  cases hs : seeded settings s with
  | error cause => rw [hs] at h; cases h
  | ok s' =>
    rw [hs] at h
    cases ht : Timers.ofJson settings.timerCycle true with
    | error cause => rw [ht] at h; cases h
    | ok t =>
      rw [ht] at h
      obtain ⟨g, rfl⟩ := seeded_eq_ok hs
      obtain ⟨hp, he⟩ := timers_ofJson_eq_ok ht
      exact ⟨g, t, hp, he, (Except.ok.inj h).symm⟩

theorem perform_pure (x : α) (c : Computer ω) :
    perform (pure x : Task ω α) c = (.ok x, c) := rfl

theorem perform_bind (t : Task ω α) (f : α → Task ω β) (c : Computer ω) :
    perform (t >>= f) c =
      match perform t c with
      | (.ok x, c') => perform (f x) c'
      | (.error cause, c') => (.error cause, c') := by
  simp only [perform, ExceptT.run_bind, StateT.run_bind]
  cases h : StateT.run (ExceptT.run t) c with
  | mk result c' => cases result <;> rfl

theorem perform_get (c : Computer ω) : perform (get : Task ω (Computer ω)) c = (.ok c, c) := rfl

theorem perform_modify (f : Computer ω → Computer ω) (c : Computer ω) :
    perform (modify f : Task ω Unit) c = (.ok (), f c) := rfl

/-- The computer with one more instruction counted. -/
def counted (c : Computer ω) : Computer ω := { c with executed := c.executed + 1 }

/-- The task leads from computers with a property to computers with it, faults included. -/
def Preserves (P : Computer ω → Prop) (t : Task ω α) : Prop := ∀ c, P c → P (perform t c).2

variable {P : Computer ω → Prop}

theorem Preserves.pure (x : α) : Preserves P (pure x : Task ω α) := fun _ h => h

theorem Preserves.bind {t : Task ω α} {f : α → Task ω β} (ht : Preserves P t)
    (hf : ∀ x, Preserves P (f x)) : Preserves P (t >>= f) := by
  intro c hc
  have h := ht c hc
  rw [perform_bind]
  cases hp : perform t c with
  | mk result c' =>
    rw [hp] at h
    cases result with
    | ok x => exact hf x c' h
    | error cause => exact h

theorem Preserves.get : Preserves P (get : Task ω (Computer ω)) := fun _ h => h

theorem Preserves.modify {f : Computer ω → Computer ω} (h : ∀ c, P c → P (f c)) :
    Preserves P (modify f : Task ω Unit) := h

variable [Observers ω]

theorem perform_onSystem (a : Action α) (c : Computer ω) :
    perform (onSystem a) c =
      ((System.run a c.system).1, { c with system := (System.run a c.system).2 }) := rfl

/-- A step is the instruction at PC, then the count, then the timers. -/
theorem perform_step (c : Computer ω) :
    perform step c =
      match System.run instruction c.system with
      | (.error cause, s) => (.error cause, { c with system := s })
      | (.ok d, s) =>
        match System.run c.timers.advance s with
        | (.error cause, s) => (.error cause, { c.counted with system := s })
        | (.ok _, s) => (.ok d, { c.counted with system := s }) := by
  simp only [step, perform_bind, perform_onSystem]
  cases h : System.run instruction c.system with
  | mk result s =>
    cases result with
    | error cause => rfl
    | ok d =>
      simp only [perform_modify, perform_get, perform_pure]
      cases h' : System.run c.timers.advance s with
      | mk result' s' => cases result' <;> rfl

theorem Preserves.steps (h : Preserves P (step : Task ω Decoded)) :
    ∀ n, Preserves P (steps n : Task ω Unit) := by
  intro n
  induction n with
  | zero => exact .pure ()
  | succ n ih => exact .bind h fun _ => ih

theorem Preserves.run (h : Preserves P (step : Task ω Decoded)) (n : Int) :
    Preserves P (run n : Task ω Nat) := .bind (.steps h _) fun _ => .pure _

/-- The task that meets a request. -/
def task : Control → Task ω Answer
  | .loadProgram image => do loadProgram image; return .nothing
  | .step => return .instruction (← step)
  | .run count => return .count (← run count)
  | .pressKey code => do pressKey code; return .nothing
  | .releaseKey => do releaseKey; return .nothing
  | .reset => do reset; return .nothing

/-- A request met, and the computer after it, also where it ended with a fault. -/
def obey (c : Computer ω) (x : Control) : Except Fault Answer × Computer ω := perform (task x) c

/-- The computers to which requests lead from a machine at power-on, with faults on the way.
Between two requests any subscriber may come or go. -/
inductive Reachable (settings : Settings) : Computer ω → Prop
  | start (generator : Twister) (bus : Bus ω) {c : Computer ω}
      (h : ofSettings settings ⟨.powerOn generator, bus⟩ = .ok c) : Reachable settings c
  | next {c : Computer ω} (h : Reachable settings c) (x : Control) :
      Reachable settings (c.obey x).2
  | rewire {c : Computer ω} (h : Reachable settings c) (bus : Bus ω) :
      Reachable settings { c with system := { c.system with bus := bus } }

end Computer

end Chip8

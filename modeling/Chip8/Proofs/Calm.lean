import Chip8.Proofs.Steps

/-!
# Calm observers

Where no notification fails, a run has the result and the machine of the course, whoever listens.

* `Bus.hear`: the bus behind a moment. `run_of_course` says all that a run is by its course.
* `calm_of_harmless`: observers are calm if they never ask for a failure, nor for an event of theirs
  without handling what comes of it.
* `Transcript` observers write down all that they are told.
-/

namespace Chip8

/-- No notification fails. -/
def Observers.Calm (ω : Type) [Observers ω] : Prop :=
  ∀ (m : Machine) (e : Event) (b : Bus ω), (b.emit m e).1 = .ok ()

theorem System.run_of_calm {ω α : Type} [Observers ω] (calm : Observers.Calm ω) (a : Action α)
    (s : System ω) : (run a s).1 = (a.course s.machine).result
      ∧ (run a s).2.machine = (a.course s.machine).machine := by
  rw [run_eq_play, Course.play]
  generalize (a.course s.machine).moments = l
  generalize s.bus = b
  induction l generalizing b with
  | nil => exact ⟨rfl, rfl⟩
  | cons y rest ih =>
    obtain ⟨m, t⟩ := y
    cases t with
    | record r => exact ih _
    | event e =>
      have hc := calm m e b
      simp only [Course.playOn]
      cases he : b.emit m e with
      | mk r b' =>
        rw [he] at hc
        cases r with
        | ok => exact ih _
        | error cause => cases hc

/-- The bus after a moment of a course. -/
def Bus.hear {ω : Type} [Observers ω] (b : Bus ω) : Moment → Bus ω
  | ⟨m, .event e⟩ => (b.emit m e).2
  | ⟨_, .record r⟩ => b.report r

/-- Whoever is calm hears the moments of a course, one after another. -/
theorem System.bus_of_calm {ω α : Type} [Observers ω] (calm : Observers.Calm ω) (a : Action α)
    (s : System ω) : (run a s).2.bus = (a.course s.machine).moments.foldl Bus.hear s.bus := by
  rw [run_eq_play, Course.play]
  generalize (a.course s.machine).moments = l
  generalize s.bus = b
  induction l generalizing b with
  | nil => rfl
  | cons x rest ih =>
    obtain ⟨m, t⟩ := x
    cases t with
    | record r => exact ih _
    | event e =>
      have told := calm m e b
      rw [Course.playOn, List.foldl_cons, Bus.hear]
      cases he : b.emit m e with
      | mk result b' =>
        rw [he] at told
        obtain rfl : result = .ok () := told
        exact ih b'

/-- All that a run is, where the course is known. -/
theorem System.run_of_course {ω α : Type} [Observers ω] (calm : Observers.Calm ω) {a : Action α}
    {s : System ω} {l : List Moment} {result : Except Fault α} {m : Machine}
    (h : a.course s.machine = ⟨l, result, m⟩) :
    run a s = (result, ⟨m, l.foldl Bus.hear s.bus⟩) := by
  obtain ⟨ended, machine⟩ := run_of_calm calm a s
  have bus := bus_of_calm calm a s
  rw [h] at ended machine bus
  exact Prod.ext ended (congrArg₂ System.mk machine bus)

theorem System.run_of_yields {ω α : Type} [Observers ω] (calm : Observers.Calm ω) {a : Action α}
    {s : System ω} {x : α} {m : Machine} (h : a.Yields s.machine x m) :
    (run a s).1 = .ok x ∧ (run a s).2.machine = m := by
  obtain ⟨l, course⟩ := h
  have ends := run_of_calm calm a s
  rw [course] at ends
  exact ends

/-- A request that cannot make a notification fail. -/
def Request.Harmless : Request → Prop
  | .subscribe _ _ | .unsubscribe _ | .report _ | .attempt _ => True
  | .notify _ | .fail _ => False

theorem Bus.meet_of_harmless {ω : Type} (notify : Event → Bus ω → Outcome ω)
    {requests : List Request} (h : ∀ r ∈ requests, r.Harmless) (b : Bus ω) :
    (meet notify requests b).1 = .ok () := by
  induction requests generalizing b with
  | nil => rfl
  | cons r rest ih =>
    have hr := h r List.mem_cons_self
    have hrest := fun r' h' => h r' (List.mem_cons_of_mem _ h')
    cases r with
    | subscribe | unsubscribe | report | attempt => exact ih hrest _
    | notify e => exact hr.elim
    | fail cause => exact hr.elim

theorem Observers.calm_of_harmless {ω : Type} [Observers ω]
    (h : ∀ (who : ObserverId) (e : Event) (m : Machine) (memory : ω),
      ∀ r ∈ (Observers.react who e m memory).2, r.Harmless) : Calm ω := by
  intro m e b
  suffices all : ∀ (l : Subscriptions) (b : Bus ω),
      (Bus.deliver (Bus.emitWithin m (Observers.nesting ω)) m e l b).1 = .ok () from
    all b.subscriptions b
  intro l
  induction l with
  | nil => exact fun _ => rfl
  | cons s rest ih =>
    intro b
    rw [Bus.deliver]
    split
    · have met := Bus.meet_of_harmless (Bus.emitWithin m (Observers.nesting ω))
        (h s.observer e m b.observers)
        { b with observers := (Observers.react s.observer e m b.observers).1 }
      dsimp only
      split
      · exact ih _
      · next cause b' hm =>
        rw [hm] at met
        cases met
    · exact ih b

/-- Who was told what, the last first. -/
structure Transcript where
  entries : List (ObserverId × Event)

instance : Observers Transcript where
  react who e _ t := (⟨(who, e) :: t.entries⟩, [])
  nesting := 0

theorem calm_transcript : Observers.Calm Transcript :=
  Observers.calm_of_harmless fun _ _ _ _ _ h => nomatch h

end Chip8

import Chip8.Clock.FreeRun
import Chip8.Proofs.Reset

/-!
# Systems with a supervisor

Nobody but the supervisor can tell whether there is one.

* `Bus.Beside`: two buses are the same but for the supervisor.
* What the supervisor does on being told is no matter to the others (`Beside.told`), and a delivery
  comes to the same without it (`Beside.deliver_others`). So no notification tells such buses apart
  (`Beside.emit`), and the same steps are taken (`onlookers_beside`).
-/

namespace Chip8

namespace Subscriptions

variable {s : Subscription} {who : ObserverId}

theorem unsubscribe_cons_of_eq (h : s.observer = who) (rest : Subscriptions) :
    unsubscribe (s :: rest) who = unsubscribe rest who := by
  simp [unsubscribe, h]

theorem unsubscribe_cons_of_ne (h : s.observer ≠ who) (rest : Subscriptions) :
    unsubscribe (s :: rest) who = s :: unsubscribe rest who := by
  simp [unsubscribe, h]

theorem unsubscribe_comm (l : Subscriptions) (a b : ObserverId) :
    unsubscribe (unsubscribe l a) b = unsubscribe (unsubscribe l b) a := by
  simp only [unsubscribe, List.filter_filter, Bool.and_comm]

theorem unsubscribe_subscribe (l : Subscriptions) (who : ObserverId) (filter : EventFilter) :
    unsubscribe (subscribe l who filter) who = unsubscribe l who := by
  simp [unsubscribe, subscribe, List.filter_append, List.filter_filter]

theorem unsubscribe_subscribe_of_ne {a b : ObserverId} (h : a ≠ b) (l : Subscriptions)
    (filter : EventFilter) :
    unsubscribe (subscribe l a filter) b = subscribe (unsubscribe l b) a filter := by
  have kept : unsubscribe [⟨a, filter⟩] b = [⟨a, filter⟩] := unsubscribe_cons_of_ne h []
  have parts : unsubscribe (subscribe l a filter) b =
      unsubscribe (unsubscribe l a) b ++ unsubscribe [⟨a, filter⟩] b := List.filter_append ..
  rw [parts, kept, unsubscribe_comm, subscribe]

end Subscriptions

namespace Bus

/-! ## Nobody else can tell -/

variable {ω : Type}

/-- But for the supervisor the buses are the same. -/
structure Beside (b b' : Bus (Supervised ω)) : Prop where
  subscriptions : b.subscriptions.unsubscribe .supervisor =
    b'.subscriptions.unsubscribe .supervisor
  memory : b.observers.memory = b'.observers.memory

/-- Two activities ended alike, on such buses. -/
structure EndBeside (o o' : Outcome (Supervised ω)) : Prop where
  result : o.1 = o'.1
  bus : Beside o.2 o'.2

theorem EndBeside.andThen {o o' : Outcome (Supervised ω)} (h : EndBeside o o')
    {next next' : Bus (Supervised ω) → Outcome (Supervised ω)}
    (ok : ∀ b b', Beside b b' → EndBeside (next b) (next' b')) :
    EndBeside (o.andThen next) (o'.andThen next') := by
  obtain ⟨result, b⟩ := o
  obtain ⟨result', b'⟩ := o'
  obtain ⟨rfl, after⟩ := h
  cases result with
  | ok => exact ok b b' after
  | error cause => exact ⟨rfl, after⟩

namespace Beside

variable {b b' b'' : Bus (Supervised ω)}

theorem refl (b : Bus (Supervised ω)) : Beside b b := ⟨rfl, rfl⟩

theorem symm (h : Beside b b') : Beside b' b := ⟨h.subscriptions.symm, h.memory.symm⟩

theorem trans (h : Beside b b') (h' : Beside b' b'') : Beside b b'' :=
  ⟨h.subscriptions.trans h'.subscriptions, h.memory.trans h'.memory⟩

theorem report (h : Beside b b') (r r' : LogRecord) : Beside (b.report r) (b'.report r') :=
  ⟨h.subscriptions, h.memory⟩

theorem unsubscribe (h : Beside b b') (who : ObserverId) :
    Beside (b.unsubscribe who) (b'.unsubscribe who) := by
  refine ⟨?_, h.memory⟩
  simp only [Bus.unsubscribe]
  rw [Subscriptions.unsubscribe_comm, h.subscriptions, Subscriptions.unsubscribe_comm]

theorem subscribe (h : Beside b b') (who : ObserverId) (filter : EventFilter) :
    Beside (b.subscribe who filter) (b'.subscribe who filter) := by
  refine ⟨?_, h.memory⟩
  simp only [Bus.subscribe]
  by_cases own : who = .supervisor
  · rw [own, Subscriptions.unsubscribe_subscribe, h.subscriptions,
      Subscriptions.unsubscribe_subscribe]
  · rw [Subscriptions.unsubscribe_subscribe_of_ne own, h.subscriptions,
      Subscriptions.unsubscribe_subscribe_of_ne own]

variable {notify : Event → Bus (Supervised ω) → Outcome (Supervised ω)}

/-- Requests come to the same, if the notifications among them do. -/
theorem meet (nested : ∀ e b b', Beside b b' → EndBeside (notify e b) (notify e b'))
    (requests : List Request) (h : Beside b b') :
    EndBeside (Bus.meet notify requests b) (Bus.meet notify requests b') := by
  induction requests generalizing b b' with
  | nil => exact ⟨rfl, h⟩
  | cons r rest ih =>
    cases r with
    | subscribe who filter => exact ih (h.subscribe who filter)
    | unsubscribe who => exact ih (h.unsubscribe who)
    | report r => exact ih (h.report r r)
    | fail cause => exact ⟨rfl, h⟩
    | notify e => exact (nested e b b' h).andThen fun _ _ after => ih after
    | attempt e => exact ih (nested e b b' h).bus

theorem memory_obeyAll (orders : List Order) (s : Supervised ω) :
    (s.obeyAll orders).1.memory = s.memory := by
  induction orders generalizing s with
  | nil => rfl
  | cons o rest ih =>
    refine (ih _).trans ?_
    cases o with
    | stop => rfl
    | start =>
      dsimp only [Supervised.obey]
      split <;> rfl

variable [Observers ω]

theorem react_other {who : ObserverId} (other : who ≠ .supervisor) (e : Event) (m : Machine)
    (s : Supervised ω) :
    Observers.react who e m s =
      ({ s with memory := (Observers.react who e m s.memory).1 },
        (Observers.react who e m s.memory).2) := by
  cases who with
  | supervisor => exact absurd rfl other
  | monitor | client => rfl

/-- What the supervisor does on being told is no matter to the others. -/
theorem told (notify : Event → Bus (Supervised ω) → Outcome (Supervised ω)) (e : Event)
    (m : Machine) (h : Beside b b') :
    ∃ b₁, Bus.meet notify (Observers.react .supervisor e m b.observers).2
        { b with observers := (Observers.react .supervisor e m b.observers).1 } = (.ok (), b₁)
      ∧ Beside b₁ b' := by
  cases e with
  | memory | register | cleared | drawn => exact ⟨_, rfl, h⟩
  | step =>
    obtain ⟨log, met⟩ := meet_reports notify _ { b with observers := b.observers.onStep.1 }
    have kept : b.observers.onStep.1.memory = b.observers.memory := memory_obeyAll _ _
    exact ⟨_, met, h.subscriptions, kept.trans h.memory⟩

/-- A delivery comes to the same without the supervisor. -/
theorem deliver_others (nested : ∀ e b b', Beside b b' → EndBeside (notify e b) (notify e b'))
    (m : Machine) (e : Event) (l : Subscriptions) (h : Beside b b') :
    EndBeside (deliver notify m e l b)
      (deliver notify m e (l.unsubscribe .supervisor) b') := by
  induction l generalizing b b' with
  | nil => exact ⟨rfl, h⟩
  | cons s rest ih =>
    by_cases own : s.observer = .supervisor
    · rw [Subscriptions.unsubscribe_cons_of_eq own]
      by_cases admits : s.filter.admits e.kind
      · obtain ⟨b₁, met, after⟩ := told notify e m h
        rw [deliver_of_admits admits, own, met]
        exact ih after
      · rw [deliver_of_not_admits admits]
        exact ih h
    · rw [Subscriptions.unsubscribe_cons_of_ne own]
      by_cases admits : s.filter.admits e.kind
      · rw [deliver_of_admits admits, deliver_of_admits admits, react_other own, react_other own,
          h.memory]
        refine (meet nested _ ?_).andThen fun _ _ after => ih after
        exact ⟨h.subscriptions, rfl⟩
      · rw [deliver_of_not_admits admits, deliver_of_not_admits admits]
        exact ih h

theorem emitWithin (m : Machine) (depth : Nat) (e : Event) (h : Beside b b') :
    EndBeside (Bus.emitWithin m depth e b) (Bus.emitWithin m depth e b') := by
  induction depth generalizing e b b' with
  | zero => exact ⟨rfl, h⟩
  | succ depth ih =>
    rw [Bus.emitWithin, Bus.emitWithin]
    have nested (e : Event) (b b' : Bus (Supervised ω)) (h : Beside b b') :
        EndBeside (Bus.emitWithin m depth e b) (Bus.emitWithin m depth e b') := ih e h
    have first := deliver_others nested m e b.subscriptions h
    have second := deliver_others nested m e b'.subscriptions (.refl b')
    rw [← h.subscriptions] at second
    exact ⟨first.result.trans second.result.symm, first.bus.trans second.bus.symm⟩

/-- **No notification tells the buses apart.** -/
theorem emit (m : Machine) (e : Event) (h : Beside b b') :
    EndBeside (b.emit m e) (b'.emit m e) := h.emitWithin m _ e

end Beside

/-- Observers who have a supervisor among them, or another one, or none, go on alike. -/
theorem onlookers_beside [Observers ω] : Onlookers .bare (Beside (ω := ω)) where
  report r h := h.report r r
  emit {b b' m m'} e alike h := by
    obtain rfl := alike.eq_of_bare
    have ended := h.emit m e
    exact ⟨ended.result, ended.bus⟩
  left _ hidden := nomatch hidden
  right _ hidden := nomatch hidden

end Bus
end Chip8

import Chip8.Bench.Cast
import Chip8.Proofs.Orders
import Chip8.Proofs.Silence
import Chip8.Proofs.Supervision

/-!
# A supervisor who counts

A supervisor that is left alone is told about every step once, so that it stops the runner at the
step that it means to.

* `Observers.Discreet`: the others leave the supervisor's subscription alone and announce no steps
  of their own. They may fail.
* `Bus.Attended`: the supervisor is subscribed to steps, and was told about a number of them. Other
  events leave it so (`Attended.emit_other`), and so do actions that announce no step; a step that
  comes to its end adds one (`attended_step`).
* `stopsAt_of_discreet`: the first step with a stop among its orders is the one at which the runner
  is told to stop.
-/

namespace Chip8

/-- The request leaves the supervisor's subscription alone and announces no step, which the
supervisor would count like a step that is taken. -/
def Request.Discreet : Request → Prop
  | .subscribe who _ | .unsubscribe who => who ≠ .supervisor
  | .notify e | .attempt e => e ≠ .step
  | .report _ | .fail _ => True

/-- All that observers ever ask for is discreet. -/
def Observers.Discreet (ω : Type) [Observers ω] : Prop :=
  ∀ (who : ObserverId) (e : Event) (m : Machine) (memory : ω),
    ∀ r ∈ (Observers.react who e m memory).2, r.Discreet

theorem Actor.discreet_requests (a : Actor) (name : Text) : ∀ r ∈ a.requests name, r.Discreet := by
  obtain ⟨behaviour, call, other, calls, kept⟩ := a
  cases behaviour with
  | note | keep | probe => exact List.forall_mem_nil _
  | leave | add | drop => exact List.forall_mem_singleton.mpr nofun
  | fail => exact List.forall_mem_singleton.mpr trivial

/-- The actors of a bench are discreet, whatever they are told to do. -/
theorem discreet_cast : Observers.Discreet Cast := by
  intro who e m c
  cases who with
  | monitor | supervisor => exact List.forall_mem_nil _
  | client name =>
    change ∀ r ∈ (c.tell name e m).2, r.Discreet
    simp only [Cast.tell]
    split
    · exact List.forall_mem_nil _
    · split
      · exact List.forall_mem_nil _
      · exact List.forall_mem_singleton.mpr trivial
    · split
      · exact Actor.discreet_requests _ name
      · exact List.forall_mem_nil _

namespace Bus

variable {ω : Type} {n : Nat} {b last : Bus (Supervised ω)}
  {notify : Event → Bus (Supervised ω) → Outcome (Supervised ω)}

/-- The supervisor is subscribed to steps, and was told about a number of them. -/
structure Attended (n : Nat) (b : Bus (Supervised ω)) : Prop where
  own : b.subscriptions.own .supervisor = [⟨.supervisor, some [.step]⟩]
  seen : b.observers.supervisor.seen = n

namespace Attended

theorem unsubscribe (h : Attended n b) {who : ObserverId} (other : who ≠ .supervisor) :
    Attended n (b.unsubscribe who) :=
  ⟨(Subscriptions.own_unsubscribe other _).trans h.own, h.seen⟩

theorem subscribe (h : Attended n b) {who : ObserverId} (other : who ≠ .supervisor)
    (filter : EventFilter) : Attended n (b.subscribe who filter) :=
  ⟨(Subscriptions.own_subscribe other _ filter).trans h.own, h.seen⟩

/-- The notification leaves the supervisor alone, unless it is one of a step. -/
def Spares (notify : Event → Bus (Supervised ω) → Outcome (Supervised ω)) : Prop :=
  ∀ e ≠ .step, ∀ n b, Attended n b → Attended n (notify e b).2

theorem meet (nested : Spares notify) {requests : List Request}
    (discreet : ∀ r ∈ requests, r.Discreet) (h : Attended n b) :
    Attended n (Bus.meet notify requests b).2 := by
  refine meet_keeps (Attended n) (fun r hr b h => ?_) h
  have own := discreet r hr
  cases r with
  | subscribe who filter => exact h.subscribe own filter
  | unsubscribe who => exact h.unsubscribe own
  | report r => exact ⟨h.own, h.seen⟩
  | fail cause => exact h
  | attempt e => exact nested e own n b h
  | notify e =>
    rw [meet_notify]
    exact nested e own n b h

variable [Observers ω]

/-- Anyone but the supervisor handles an event. -/
theorem handle (nested : Spares notify) (discreet : Observers.Discreet ω) (h : Attended n b)
    {who : ObserverId} (other : who ≠ .supervisor) (e : Event) (m : Machine) :
    Attended n (Bus.meet notify (Observers.react who e m b.observers).2
      { b with observers := (Observers.react who e m b.observers).1 }).2 := by
  rw [Beside.react_other other]
  exact meet nested (discreet who e m _) ⟨h.own, h.seen⟩

/-- What is no matter of the supervisor's goes to the others. -/
theorem deliver_other (nested : Spares notify) (discreet : Observers.Discreet ω) {e : Event}
    (m : Machine) (l : Subscriptions)
    (spared : ∀ s ∈ l, s.observer = .supervisor → ¬ s.filter.admits e.kind)
    (h : Attended n b) : Attended n (Bus.deliver notify m e l b).2 := by
  induction l generalizing b with
  | nil => exact h
  | cons s rest ih =>
    obtain ⟨hs, hrest⟩ := List.forall_mem_cons.mp spared
    by_cases admits : s.filter.admits e.kind
    · have told := h.handle nested discreet (fun own => hs own admits) e m
      rw [deliver_of_admits admits]
      exact Outcome.keeps_andThen (Attended n) told fun _ => ih hrest
    · rw [deliver_of_not_admits admits]
      exact ih hrest h

theorem spares_emitWithin (discreet : Observers.Discreet ω) (m : Machine) (depth : Nat) :
    Spares (ω := ω) (Bus.emitWithin m depth) := by
  induction depth with
  | zero => exact fun _ _ _ _ h => h
  | succ depth ih =>
    intro e other n b h
    rw [Bus.emitWithin]
    refine deliver_other ih discreet m b.subscriptions (fun s hs mine => ?_) h
    rw [Subscriptions.eq_of_own h.own hs mine]
    cases e with
    | step => exact absurd rfl other
    | memory | register | cleared | drawn => exact Bool.false_ne_true

theorem emit_other (discreet : Observers.Discreet ω) {e : Event} (other : e ≠ .step) (m : Machine)
    (h : Attended n b) : Attended n (b.emit m e).2 :=
  spares_emitWithin discreet m _ e other n b h

/-- The supervisor counts a step that it is told about. -/
theorem told (notify : Event → Bus (Supervised ω) → Outcome (Supervised ω)) (m : Machine)
    (h : Attended n b) :
    ∃ b', Bus.meet notify (Observers.react .supervisor .step m b.observers).2
        { b with observers := (Observers.react .supervisor .step m b.observers).1 } = (.ok (), b')
      ∧ Attended (n + 1) b' := by
  have seen : b.observers.onStep.1.supervisor.seen = n + 1 :=
    (Supervised.orders_obeyAll _ _).2.trans (congrArg (· + 1) h.seen)
  obtain ⟨log, met⟩ := meet_reports notify _ { b with observers := b.observers.onStep.1 }
  exact ⟨_, met, h.own, seen⟩

theorem deliver_step (nested : Spares notify) (discreet : Observers.Discreet ω) (m : Machine)
    (l : Subscriptions) (own : l.own .supervisor = [⟨.supervisor, some [.step]⟩])
    (h : Attended n b) (ended : Bus.deliver notify m .step l b = (.ok (), last)) :
    Attended (n + 1) last := by
  induction l generalizing b with
  | nil => cases own
  | cons s rest ih =>
    by_cases supervisor : s.observer = .supervisor
    · rw [Subscriptions.own_cons_of_eq supervisor] at own
      obtain ⟨rfl, gone⟩ := List.cons.inj own
      have others : ∀ s ∈ rest, s.observer = .supervisor → ¬ s.filter.admits Event.step.kind :=
        fun s hs mine => absurd mine (Subscriptions.ne_of_own_eq_nil gone hs)
      obtain ⟨b', met, counted⟩ := h.told notify m
      have admits : EventFilter.admits (some [EventKind.step]) Event.step.kind = true := rfl
      have after := deliver_other nested discreet m rest others counted
      rw [deliver_of_admits admits, met] at ended
      have passed : Bus.deliver notify m .step rest b' = (.ok (), last) := ended
      rwa [passed] at after
    · rw [Subscriptions.own_cons_of_ne supervisor] at own
      by_cases admits : s.filter.admits Event.step.kind
      · have passed := h.handle nested discreet supervisor .step m
        rw [deliver_of_admits admits] at ended
        obtain ⟨b', met, others⟩ := Outcome.eq_of_andThen_ok ended
        rw [met] at passed
        exact ih own passed others
      · rw [deliver_of_not_admits admits] at ended
        exact ih own h ended

theorem emit_step (discreet : Observers.Discreet ω) (m : Machine) (h : Attended n b)
    (ended : b.emit m .step = (.ok (), last)) : Attended (n + 1) last :=
  deliver_step (spares_emitWithin discreet m _) discreet m b.subscriptions h.own h ended

end Attended

end Bus

namespace System

open Chip8.Action

variable {ω α : Type} [Observers ω] {n : Nat}

theorem run_notify (e : Event) (s : System ω) :
    run (notify e) s =
      ((s.bus.emit s.machine e).1, { s with bus := (s.bus.emit s.machine e).2 }) := by
  simp only [notify, run]
  split <;> next h => rw [h]

/-- An action that announces no step leaves the supervisor alone. -/
theorem attended_run (discreet : Observers.Discreet ω) {a : Action α} (silent : a.Silent .step)
    {s : System (Supervised ω)} (h : s.bus.Attended n) : (run a s).2.bus.Attended n := by
  have others := silent s.machine
  rw [run_eq_play, Course.play]
  generalize a.course s.machine = c at others ⊢
  generalize s.bus = b at h ⊢
  obtain ⟨l, result, last⟩ := c
  dsimp only at others ⊢
  induction l generalizing b with
  | nil => exact h
  | cons x rest ih =>
    obtain ⟨other, hrest⟩ := List.forall_mem_cons.mp others
    obtain ⟨m, t⟩ := x
    cases t with
    | record r => exact ih _ ⟨h.own, h.seen⟩ hrest
    | event e =>
      have told := h.emit_other discreet (fun step => other (step ▸ rfl)) m
      rw [Course.playOn]
      generalize b.emit m e = outcome at told ⊢
      obtain ⟨result, b'⟩ := outcome
      cases result with
      | ok => exact ih b' told hrest
      | error cause => exact told

end System

namespace Computer

open Chip8.Action

variable {ω : Type} {c f : Computer (Supervised ω)} {n : Nat}

theorem attended_started (idle : c.runner.thread ≠ some .alive) (orders : Nat → List Order) :
    (c.started orders).system.bus.Attended 0 := by
  rw [started, start_of_idle (c := c.brief orders) idle]
  exact ⟨Subscriptions.own_subscribe_self _ _ _, rfl⟩

variable [Observers ω]

/-- What is left of an instruction when its step has been announced. -/
def fulfil : Action Decoded := do
  let d := fetched (← System.look)
  let target ← System.execute d
  let m ← System.look
  System.setPc (target.getD m.nextPc : Nat)
  return d

theorem instruction_eq : instruction = System.notify .step >>= fun _ => fulfil := rfl

theorem silent_fulfil : fulfil.Silent .step :=
  .bind .look fun _ => .bind (System.silent_execute (.inl rfl) _) fun _ => .bind .look fun _ =>
    .bind (.write nofun) fun _ => .pure _

theorem silent_advance (t : Timers) : t.advance.Silent .step :=
  Timers.advance_of_parts (System.stores_silent (.inl rfl)).toCompositional
    (System.stores_silent (.inl rfl)).setDt (System.stores_silent (.inl rfl)).setSt (.change _)

/-- **A step that comes to its end is counted.** -/
theorem attended_step (discreet : Observers.Discreet ω) (h : c.system.bus.Attended n) {d : Decoded}
    (went : perform step c = (.ok d, f)) : f.system.bus.Attended (n + 1) := by
  rw [perform_step, instruction_eq, System.run_bind, System.run_notify] at went
  generalize told : c.system.bus.emit c.system.machine .step = outcome at went
  obtain ⟨result, b⟩ := outcome
  cases result with
  | error cause => cases went
  | ok =>
    have counted : b.Attended (n + 1) := h.emit_step discreet c.system.machine told
    have fulfilled : (System.run fulfil { c.system with bus := b }).2.bus.Attended (n + 1) :=
      System.attended_run discreet silent_fulfil counted
    dsimp only at went
    generalize System.run fulfil { c.system with bus := b } = outcome at fulfilled went
    obtain ⟨result, s⟩ := outcome
    cases result with
    | error cause => cases went
    | ok d' =>
      have ticked : (System.run c.timers.advance s).2.bus.Attended (n + 1) :=
        System.attended_run discreet (silent_advance c.timers) fulfilled
      dsimp only at went
      generalize System.run c.timers.advance s = outcome at ticked went
      obtain ⟨result, s⟩ := outcome
      cases result with
      | error cause => cases went
      | ok =>
        obtain ⟨-, rfl⟩ := Prod.mk.inj went
        exact ticked

theorem attended_rounds (discreet : Observers.Discreet ω) (k : Nat)
    (h : c.system.bus.Attended n) (went : perform (rounds k) c = (.ok (), f)) :
    f.system.bus.Attended (n + k) := by
  induction k generalizing n c with
  | zero =>
    obtain ⟨-, rfl⟩ := Prod.mk.inj went
    exact h
  | succ k ih =>
    rw [rounds, perform_bind] at went
    cases first : perform round c with
    | mk result c' =>
      rw [first] at went
      cases result with
      | error cause => cases went
      | ok d =>
        have entered : c.enter.system.bus.Attended n := ⟨h.own, h.seen⟩
        have rest := ih (attended_step discreet entered first) went
        rwa [Nat.add_assoc, Nat.add_comm 1 k] at rest

/-- **A supervisor that is left alone stops the runner at the step that it means to**: the first one
with a stop among its orders. -/
theorem stopsAt_of_discreet (discreet : Observers.Discreet ω)
    (idle : c.runner.thread ≠ some .alive) {orders : Nat → List Order} {limit : Nat}
    (first : ∀ k ≤ limit, Order.stop ∈ Order.given orders k ↔ k = limit) :
    StopsAt limit (c.started orders) := by
  intro k last below went
  have under := under_rounds k (under_started idle orders) went
  have attended := attended_rounds discreet k (attended_started idle orders) went
  have seen : last.supervised.supervisor.seen = k := attended.seen.trans (Nat.zero_add k)
  have stopping : last.runner.stopping = (Order.given orders k).contains .stop := by
    rw [← seen]
    exact under.stopping
  rw [stopping, List.contains_iff_mem]
  exact first k below

end Computer

end Chip8

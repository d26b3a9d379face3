import Chip8.Clock.FreeRun
import Chip8.Proofs.Audience
import Chip8.Proofs.Steps

/-!
# What the runner makes of its orders

The supervisor gives its orders from the runner's own thread. What they come to depends on nothing
but the orders themselves, whoever else is told about whatever.

* `Order.answers`: a start from inside never begins a thread. Before the first stop it does nothing,
  and after it it is refused.
* `Supervised.Under`: a runner under orders. The thread that was begun last is alive, it was told to
  stop if a stop was among the orders given so far, and the starts among them were answered so.
* `under_round`: a round of the runner's thread leaves it under orders. `Bus.Stays.step` says so of
  every property that observers keep.
-/

namespace Chip8

namespace Order

/-- What comes of the starts among orders given from inside, after a stop or before any. -/
def answers (stopped : Bool) : List Order → List StartNote
  | [] => []
  | .start :: rest =>
    (if stopped then .refused .runnerActive else .running) :: answers stopped rest
  | .stop :: rest => answers true rest

theorem answers_append (stopped : Bool) (l l' : List Order) :
    answers stopped (l ++ l') = answers stopped l ++ answers (stopped || l.contains .stop) l' := by
  induction l generalizing stopped with
  | nil => rw [List.contains_nil, Bool.or_false]; rfl
  | cons o rest ih =>
    cases o with
    | start => exact congrArg (_ :: ·) (ih stopped)
    | stop =>
      rw [List.contains_cons, beq_self_eq_true, Bool.true_or, Bool.or_true]
      exact (ih true).trans (by rw [Bool.true_or]; rfl)

/-- The orders given at a number of steps, all together. -/
def given (orders : Nat → List Order) (seen : Nat) : List Order :=
  (List.range seen).flatMap fun k => orders (k + 1)

theorem given_succ (orders : Nat → List Order) (seen : Nat) :
    given orders (seen + 1) = given orders seen ++ orders (seen + 1) := by
  rw [given, List.range_succ, List.flatMap_append, List.flatMap_singleton, given]

end Order

namespace Supervised

variable {ω : Type} {s : Supervised ω} {orders : Nat → List Order} {n : Nat} {past : List Order}

/-- The orders given so far were carried out by the thread that was begun as the `n`-th. -/
structure Obeyed (n : Nat) (past : List Order) (s : Supervised ω) : Prop where
  thread : s.runner.thread = some .alive
  begun : s.runner.begun = n
  lastFault : s.runner.lastFault = none
  stopping : s.runner.stopping = past.contains .stop
  notes : s.supervisor.notes = Order.answers false past

/-- On the runner's own thread a start begins nothing. -/
theorem start_inside (alive : s.runner.thread = some .alive) :
    s.runner.start .inside = if s.runner.stopping then .error .runnerActive else .ok none := by
  have running : s.runner.isRunning = !s.runner.stopping := by
    rw [Runner.isRunning, alive, decide_eq_true rfl, Bool.true_and]
  have there : (s.runner.join .inside).thread.isSome = true := congrArg Option.isSome alive
  rw [Runner.start, running, if_pos there]
  cases s.runner.stopping <;> rfl

theorem Obeyed.obey (h : Obeyed n past s) (inside : s.supervisor.caller = .inside) (o : Order) :
    Obeyed n (past ++ [o]) (s.obey o).1 ∧ (s.obey o).1.supervisor.caller = .inside := by
  have more := Order.answers_append false past [o]
  rw [Bool.false_or, ← h.notes, ← h.stopping] at more
  cases o with
  | stop =>
    rw [Order.answers, Order.answers, List.append_nil] at more
    refine ⟨?_, inside⟩
    have told : s.runner.stop .inside = { s.runner with stopping := true } := rfl
    rw [Supervised.obey, inside, told]
    have stop : (past ++ [Order.stop]).contains .stop = true := by simp
    exact ⟨h.thread, h.begun, h.lastFault, stop.symm, more.symm⟩
  | start =>
    have same : (past ++ [Order.start]).contains .stop = past.contains .stop := by simp
    simp only [Supervised.obey, inside, start_inside h.thread]
    cases stopping : s.runner.stopping with
    | true =>
      rw [stopping] at more
      refine ⟨⟨h.thread, h.begun, h.lastFault, ?_, more.symm⟩, inside⟩
      rw [same, ← h.stopping]
      rfl
    | false =>
      rw [stopping] at more
      refine ⟨⟨h.thread, h.begun, h.lastFault, ?_, more.symm⟩, inside⟩
      rw [same, ← h.stopping]
      rfl

theorem Obeyed.obeyAll (h : Obeyed n past s) (inside : s.supervisor.caller = .inside)
    (l : List Order) :
    Obeyed n (past ++ l) (s.obeyAll l).1 ∧ (s.obeyAll l).1.supervisor.caller = .inside := by
  induction l generalizing past s with
  | nil => exact ⟨(List.append_nil past).symm ▸ h, inside⟩
  | cons o rest ih =>
    obtain ⟨obeyed, still⟩ := h.obey inside o
    have all := ih obeyed still
    rwa [List.append_assoc] at all

/-- Orders change nothing about what orders are given. -/
theorem orders_obeyAll (s : Supervised ω) (l : List Order) :
    (s.obeyAll l).1.supervisor.orders = s.supervisor.orders
      ∧ (s.obeyAll l).1.supervisor.seen = s.supervisor.seen := by
  induction l generalizing s with
  | nil => exact ⟨rfl, rfl⟩
  | cons o rest ih =>
    have one : (s.obey o).1.supervisor.orders = s.supervisor.orders
        ∧ (s.obey o).1.supervisor.seen = s.supervisor.seen := by
      cases o with
      | stop => exact ⟨rfl, rfl⟩
      | start =>
        dsimp only [Supervised.obey]
        split <;> exact ⟨rfl, rfl⟩
    exact ⟨(ih _).1.trans one.1, (ih _).2.trans one.2⟩

/-- A runner under orders, since its thread was begun as the `n`-th. -/
structure Under (orders : Nat → List Order) (n : Nat) (s : Supervised ω) : Prop extends
    Obeyed n (Order.given orders s.supervisor.seen) s where
  steady : s.supervisor.orders = orders

theorem Under.onStep (h : Under orders n s) (inside : s.supervisor.caller = .inside) :
    Under orders n s.onStep.1 ∧ s.onStep.1.supervisor.caller = .inside := by
  have counted : Obeyed n (Order.given orders s.supervisor.seen) s.counted :=
    ⟨h.thread, h.begun, h.lastFault, h.stopping, h.notes⟩
  obtain ⟨obeyed, still⟩ := counted.obeyAll inside (orders (s.supervisor.seen + 1))
  obtain ⟨kept, seen⟩ := s.counted.orders_obeyAll (orders (s.supervisor.seen + 1))
  have all : s.onStep.1 = (s.counted.obeyAll (orders (s.supervisor.seen + 1))).1 := by
    rw [← h.steady]
    rfl
  rw [← Order.given_succ] at obeyed
  rw [all]
  refine ⟨⟨?_, kept.trans h.steady⟩, still⟩
  rw [seen]
  exact obeyed

end Supervised

namespace Bus.Stays

variable {ω α : Type} [Observers ω] {P : Bus ω → Prop}

theorem run (stays : Stays P) (a : Action α) {s : System ω} (h : P s.bus) :
    P (System.run a s).2.bus := by
  induction a generalizing s with
  | done | fail => exact h
  | look next ih => exact ih s.machine h
  | change f next ih =>
    apply ih
    exact h
  | report r next ih =>
    apply ih
    exact stays.report r h
  | notify e next ih =>
    have told := stays.emit s.machine e h
    rw [System.run]
    split
    · next bus result =>
      rw [result] at told
      apply ih
      exact told
    · next cause bus result =>
      rw [result] at told
      exact told

/-- What stays through every notification on a bus stays through a step. -/
theorem step (stays : Stays P) {c : Computer ω} (h : P c.system.bus) :
    P (Computer.perform Computer.step c).2.system.bus := by
  have done := stays.run Computer.instruction h
  rw [Computer.perform_step]
  split
  · next cause s result =>
    rw [result] at done
    exact done
  · next d s result =>
    rw [result] at done
    have ticked := stays.run c.timers.advance done
    split
    · next cause s result =>
      rw [result] at ticked
      exact ticked
    · next s result =>
      rw [result] at ticked
      exact ticked

end Bus.Stays

/-- Whoever is told about whatever, the runner stays under its orders. -/
theorem Bus.stays_under {ω : Type} [Observers ω] (orders : Nat → List Order) (n : Nat) :
    Stays fun b : Bus (Supervised ω) =>
      b.observers.Under orders n ∧ b.observers.supervisor.caller = .inside where
  subscribe _ _ h := h
  unsubscribe _ h := h
  report _ h := h
  react {b} who e m h := by
    cases who with
    | monitor | client =>
      obtain ⟨⟨obeyed, steady⟩, inside⟩ := h
      exact ⟨⟨⟨obeyed.thread, obeyed.begun, obeyed.lastFault, obeyed.stopping, obeyed.notes⟩,
        steady⟩, inside⟩
    | supervisor =>
      cases e with
      | step => exact h.1.onStep h.2
      | memory | register | cleared | drawn => exact h

namespace Computer

variable {ω : Type} {c f : Computer (Supervised ω)} {orders : Nat → List Order} {begun : Nat}

/-- The computer when a free run was started. -/
def started (orders : Nat → List Order) (c : Computer (Supervised ω)) : Computer (Supervised ω) :=
  ((c.brief orders).start (.outside true)).2

/-- Where no thread is alive, a start from outside begins one. -/
theorem start_of_idle (idle : c.runner.thread ≠ some .alive) (inTime : Bool) :
    c.start (.outside inTime) =
      (.ok true, (c.changeRunner fun r => ⟨some .alive, false, r.begun + 1, none⟩).changeBus
        (·.report (.started c.settings.rateNumber))) := by
  have rests : c.runner.isRunning = false := by
    rw [Runner.isRunning, decide_eq_false idle, Bool.false_and]
  have gone : (c.runner.join (.outside inTime)).thread.isSome = false := by
    rw [Runner.join]
    cases there : c.runner.thread with
    | none => cases inTime <;> simp [Runner.ended, there]
    | some thread =>
      cases thread with
      | alive => exact absurd there idle
      | ended => cases inTime <;> simp [Runner.ended, there]
  rw [start, Runner.start, rests, gone]
  rfl

theorem start_brief (idle : c.runner.thread ≠ some .alive) (orders : Nat → List Order) :
    (c.brief orders).start (.outside true) = (.ok true, c.started orders) := by
  have begins := start_of_idle (c := c.brief orders) idle true
  rw [started, begins]

/-- A runner that was just started is under its orders, none of which was given yet. -/
theorem under_started (idle : c.runner.thread ≠ some .alive) (orders : Nat → List Order) :
    (c.started orders).supervised.Under orders (c.runner.begun + 1) := by
  rw [started, start_of_idle (c := c.brief orders) idle]
  exact ⟨⟨rfl, rfl, rfl, rfl, rfl⟩, rfl⟩

variable [Observers ω]

/-- **A round leaves the runner under its orders**, also where it ends with a fault. -/
theorem under_round (h : c.supervised.Under orders begun) :
    (perform round c).2.supervised.Under orders begun := by
  have entered : c.enter.supervised.Under orders begun :=
    ⟨⟨h.thread, h.begun, h.lastFault, h.stopping, h.notes⟩, h.steady⟩
  exact ((Bus.stays_under orders begun).step (c := c.enter) ⟨entered, rfl⟩).1

/-- The steps of as many rounds of the runner's thread. -/
def rounds : Nat → Task (Supervised ω) Unit
  | 0 => pure ()
  | n + 1 => do
    let _ ← round
    rounds n

theorem under_rounds (k : Nat) (h : c.supervised.Under orders begun)
    (went : perform (rounds k) c = (.ok (), f)) : f.supervised.Under orders begun := by
  induction k generalizing c with
  | zero =>
    obtain ⟨-, rfl⟩ := Prod.mk.inj went
    exact h
  | succ k ih =>
    have still := under_round h
    rw [rounds, perform_bind] at went
    cases first : perform round c with
    | mk result c' =>
      rw [first] at went still
      cases result with
      | error cause => cases went
      | ok d => exact ih still went

/-- **Stopped at a step.** Of the steps that are taken one after another, the first at which the
runner is told to stop is the one of a given number. A supervisor who counts what it is told about
gets this right as long as nobody else announces steps to it (`stopsAt_of_discreet`). -/
def StopsAt (limit : Nat) (c : Computer (Supervised ω)) : Prop :=
  ∀ k last, k ≤ limit → perform (rounds k) c = (.ok (), last) →
    (last.runner.stopping = true ↔ k = limit)

theorem StopsAt.stopping {limit : Nat} (h : StopsAt limit c) :
    c.runner.stopping = true ↔ 0 = limit := h 0 c (Nat.zero_le limit) rfl

/-- After one of the steps there is one less to be taken. -/
theorem StopsAt.succ {limit : Nat} (h : StopsAt (limit + 1) c) {d : Decoded}
    (went : perform round c = (.ok d, f)) : StopsAt limit f := by
  intro k last below ended
  have whole : perform (rounds (k + 1)) c = (.ok (), last) := by
    rw [rounds, perform_bind, went]
    exact ended
  have stopped := h (k + 1) last (Nat.succ_le_succ below) whole
  rwa [Nat.succ_inj] at stopped

end Computer

end Chip8

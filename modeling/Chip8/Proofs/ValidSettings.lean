import Chip8.Proofs.FreeRunning
import Chip8.Proofs.Magnitudes
import Chip8.Proofs.Steps
import Chip8.Proofs.StoredSettings

/-!
# Running on valid settings

How far settings carry that passed their check.

* `Accounted`: the runner's thread has taken a step in each of its rounds, or it does not run any
  more for a reason that can be told. `accounted_loop` accounts for every number of rounds.
* `valid_settings_run`: a computer is built if the timer cycle is not below one, and a free run
  reaches its first step if the rate does not overflow.
-/

namespace Chip8

/-- The system with a runner that was never started. -/
def System.withRunner {ω : Type} (s : System ω) : System (Supervised ω) :=
  ⟨s.machine, ⟨s.bus.subscriptions, .ofMemory s.bus.observers, s.bus.log⟩⟩

namespace Computer

variable {ω : Type} {c : Computer (Supervised ω)} {limit : Int}

/-! ## Settings that passed their check -/

/-- A number that passed is cut to its floor. -/
theorem toInt_of_number {v : Json} {t : Number} (given : v.number? = some t) (finite : t.IsFinite)
    (positive : 0 < t.toRat) : v.toInt = .ok ⌊t.toRat⌋ := by
  have whole := Number.whole_eq_floor finite positive
  cases v with
  | int | bool | float =>
    cases given
    simp only [Json.toInt, Json.number?, Number.toInt, whole]
    rfl
  | null | str | arr | obj => cases given

/-- With no seed, or an integer, only the period of the timers can be refused. -/
theorem ofSettings_of_period {s : Settings} {seed : Option Int} {period : Int}
    (seeds : s.seed = Settings.seedValue seed) (cycle : s.timerCycle.toInt = .ok period)
    (system : System ω) :
    (period < 1 → ofSettings s system = .error (.timers (.period period))) ∧
      (1 ≤ period → ∃ c, ofSettings s system = .ok c) := by
  obtain ⟨system', seeded⟩ : ∃ system', seeded s system = .ok system' := by
    rw [seeded, seeds]
    cases seed <;> exact ⟨_, rfl⟩
  simp only [ofSettings, seeded, Timers.ofJson, cycle, Timers.ofPeriod]
  constructor
  · intro low
    rw [dif_neg (by omega)]
  · intro high
    rw [dif_pos (by omega)]
    exact ⟨_, rfl⟩

/-! ## Free runs -/

/-- Where the runner's thread is after some rounds. As long as it runs it took a step in each of
them, and else there is a reason: a fault that is kept, an order to stop, or a time between two
steps that cannot be waited for. -/
structure Accounted (orders : Nat → List Order) (interval : Binary64) (n : Nat)
    (c last : Computer (Supervised ω)) : Prop where
  running : last.runner.isRunning = true → last.executed = c.executed + n
  rests : last.runner.isRunning = false → last.lastFault.isSome
    ∨ Order.stop ∈ Order.given orders last.supervised.supervisor.seen ∨ interval.canWait = false
  grown : c.executed ≤ last.executed ∨ last.lastFault.isSome

variable {orders : Nat → List Order} {begun : Nat} {interval : Binary64}

theorem isRunning_leave (c : Computer (Supervised ω)) : c.leave.runner.isRunning = false := by
  have gone : c.leave.runner.thread ≠ some .alive := by
    change c.runner.thread.map (fun _ => Thread.ended) ≠ some .alive
    cases c.runner.thread <;> exact nofun
  rw [Runner.isRunning, decide_eq_false gone, Bool.false_and]

/-- A thread under orders was told to stop if a stop was among them. -/
theorem stop_given (h : c.supervised.Under orders begun) (stopping : c.runner.stopping = true) :
    Order.stop ∈ Order.given orders c.supervised.supervisor.seen := by
  have told := h.stopping
  rw [show c.supervised.runner.stopping = true from stopping] at told
  exact List.contains_iff_mem.mp told.symm

theorem accounted_leave {n : Nat} {c' : Computer (Supervised ω)}
    (grown : c.executed ≤ c'.executed ∨ c'.lastFault.isSome)
    (reason : c'.lastFault.isSome ∨
      Order.stop ∈ Order.given orders c'.supervised.supervisor.seen ∨ interval.canWait = false) :
    Accounted orders interval n c c'.leave where
  running runs := by
    rw [isRunning_leave] at runs
    cases runs
  rests _ := reason
  grown := grown

theorem Accounted.succ {n : Nat} {c' last : Computer (Supervised ω)}
    (h : Accounted orders interval n c' last) (count : c'.executed = c.executed + 1) :
    Accounted orders interval (n + 1) c last where
  running runs := by
    rw [h.running runs, count, Nat.add_assoc, Nat.add_comm 1 n]
  rests := h.rests
  grown := by
    apply h.grown.imp_left
    intro grown
    rw [count] at grown
    exact Nat.le_of_succ_le grown

variable [Observers ω]

/-- **The runner's thread is accounted for**, after however many rounds. -/
theorem accounted_loop (clock : Clock) (interval : Binary64) (n : Nat) {p : Pacing}
    (behind : p.deadline ≤ p.now) (h : c.supervised.Under orders begun) :
    Accounted orders interval n c (loop clock interval n p c) := by
  induction n generalizing c p with
  | zero =>
    refine ⟨fun _ => rfl, fun rests => .inr (.inl ?_), .inl (Nat.le_refl _)⟩
    apply stop_given h
    have alive : c.runner.thread = some .alive := h.thread
    rw [loop, Runner.isRunning, alive, decide_eq_true rfl, Bool.true_and] at rests
    simpa using rests
  | succ n ih =>
    rw [loop]
    by_cases stopping : c.runner.stopping = true
    · rw [if_pos stopping]
      exact accounted_leave (.inl (Nat.le_refl _)) (.inr (.inl (stop_given h stopping)))
    · rw [if_neg stopping]
      have still := under_round h
      cases went : perform round c with
      | mk result c' =>
        rw [went] at still
        cases result with
        | error cause => exact accounted_leave (.inr rfl) (.inl rfl)
        | ok d =>
          obtain ⟨-, -, count, -⟩ := step_eq_ok (c := c.enter) went
          have count : c'.executed = c.executed + 1 := count
          dsimp only
          cases waited : p.next clock interval c'.runner.stopping with
          | some p' => exact (ih (Pacing.deadline_next behind waited) still).succ count
          | none =>
            have long : interval.canWait = false := by
              by_contra short
              obtain ⟨p', goes⟩ := Pacing.exists_next clock (Bool.eq_true_of_not_eq_false short)
                c'.runner.stopping behind
              rw [waited] at goes
              cases goes
            apply accounted_leave
            · left
              omega
            · exact .inr (.inr long)

/-- The first step is counted, or its fault is kept. -/
theorem first_step_loop (clock : Clock) (interval : Binary64) {n : Nat} (nonzero : n ≠ 0)
    {p : Pacing} (behind : p.deadline ≤ p.now) (h : c.supervised.Under orders begun)
    (goes : c.runner.stopping = false) :
    c.executed < (loop clock interval n p c).executed ∨
      (loop clock interval n p c).lastFault.isSome := by
  obtain ⟨n, rfl⟩ := Nat.exists_eq_succ_of_ne_zero nonzero
  have still := under_round h
  rw [loop, if_neg (Bool.eq_false_iff.mp goes)]
  cases went : perform round c with
  | mk result c' =>
    rw [went] at still
    cases result with
    | error cause => exact .inr rfl
    | ok d =>
      obtain ⟨-, -, count, -⟩ := step_eq_ok (c := c.enter) went
      have count : c'.executed = c.executed + 1 := count
      dsimp only
      cases waited : p.next clock interval c'.runner.stopping with
      | none =>
        left
        change c.executed < c'.executed
        omega
      | some p' =>
        have behind' := Pacing.deadline_next behind waited
        apply (accounted_loop clock interval n behind' still).grown.imp_left
        intro grown
        exact Nat.lt_of_lt_of_le (count ▸ Nat.lt_succ_self c.executed) grown

theorem executed_step_le (c : Computer ω) :
    (perform step c).2.executed ≤ c.executed + 1 := by
  rw [perform_step]
  generalize System.run instruction c.system = outcome
  obtain ⟨result, s⟩ := outcome
  cases result with
  | error cause => exact Nat.le_succ _
  | ok d =>
    dsimp only
    generalize System.run c.timers.advance s = outcome
    obtain ⟨result, s⟩ := outcome
    cases result <;> exact Nat.le_refl _

/-- A first pause that is too long, if it is waited for at all, ends the thread after one step. -/
theorem executed_loop_le (clock : Clock) (interval : Binary64) (n : Nat) {p : Pacing}
    (long : p.next clock interval false = none) (c : Computer (Supervised ω)) :
    (loop clock interval n p c).executed ≤ c.executed + 1 := by
  cases n with
  | zero => exact Nat.le_succ _
  | succ n =>
    rw [loop]
    split
    · exact Nat.le_succ _
    · have one : (perform round c).2.executed ≤ c.executed + 1 := executed_step_le c.enter
      generalize perform round c = outcome at one ⊢
      obtain ⟨result, c'⟩ := outcome
      cases result with
      | error cause => exact one
      | ok d =>
        dsimp only at one ⊢
        split
        · next p' goes =>
          -- The pause was passed over, so the next round sees the stop.
          have stopping : c'.runner.stopping = true := by
            by_contra still
            rw [Bool.eq_false_iff.mpr still, long] at goes
            cases goes
          cases n with
          | zero => exact one
          | succ n =>
            rw [loop, if_pos stopping]
            exact one
        · exact one

/-- **How far valid settings carry.** Take settings that pass their check, with finite numbers as
rate and timer cycle and with no seed or an integer. A computer is built of them exactly if the
timer cycle is not below one, and its timers have the whole part of it as their period. There is a
time between two steps exactly if the rate is no integer that overflows. Without it the thread of a
free run ends before its first step, with nothing kept. With it, it is known of every number of
rounds what came of them: the first step was reached, and a thread that does not run any more was
told to stop, or left its fault, or could not wait for so long, which needs a rate below
`2 ^ -28`. -/
theorem valid_settings_run {name rate timerCycle : Json} {seed : Option Int} {s : Settings}
    {r t : Number} (made : Settings.create name rate timerCycle (Settings.seedValue seed) = .ok s)
    (rated : rate.number? = some r) (cycled : timerCycle.number? = some t)
    (finite : r.IsFinite ∧ t.IsFinite) (system : System ω) :
    (t.toRat < 1 → ofSettings s system.withRunner = .error (.timers (.period 0))) ∧
    (1 ≤ t.toRat → ∃ c, ofSettings s system.withRunner = .ok c) ∧
    (r.Overflows → s.stepInterval = .error .rateTooLarge) ∧
    (¬ r.Overflows → ∃ interval, s.stepInterval = .ok interval ∧
      (1 ≤ 2 ^ 28 * r.toRat → interval.canWait = true)) ∧
    ∀ c, ofSettings s system.withRunner = .ok c →
      (c.timers.period : Int) = ⌊t.toRat⌋ ∧ 1 ≤ c.timers.period ∧
      ∀ orders,
        let begun := c.started orders
        (c.brief orders).start (.outside true) = (.ok true, begun) ∧
        begun.executed = 0 ∧ begun.lastFault = none ∧ begun.runner.isRunning = true ∧
        ∀ clock n,
          let last := begun.follow clock n
          (r.Overflows → last = begun.leave) ∧
          ∀ interval, s.stepInterval = .ok interval →
            Accounted orders interval n begun last ∧
            (n ≠ 0 → 0 < last.executed ∨ last.lastFault.isSome) ∧
            ((Pacing.start clock).next clock interval false = none → last.executed ≤ 1) := by
  obtain ⟨rfl, checked⟩ := Settings.create_eq_ok_iff.mp made
  obtain ⟨⟨r', given, hr⟩, ⟨t', given', ht⟩⟩ := Settings.check_eq_ok_iff.mp checked
  obtain rfl := Option.some.inj (rated.symm.trans given)
  obtain rfl := Option.some.inj (cycled.symm.trans given')
  have rate_pos := (Number.nonpositive_eq_false_iff finite.1).mp hr
  have cycle_pos := (Number.nonpositive_eq_false_iff finite.2).mp ht
  have whole : timerCycle.toInt = .ok ⌊t.toRat⌋ := toInt_of_number cycled finite.2 cycle_pos
  have nonneg : 0 ≤ ⌊t.toRat⌋ := Int.floor_nonneg.mpr (le_of_lt cycle_pos)
  let s : Settings := ⟨name, rate, timerCycle, Settings.seedValue seed⟩
  obtain ⟨refused, built⟩ := ofSettings_of_period (s := s) rfl whole system.withRunner
  have overflow (beyond : r.Overflows) : s.stepInterval = .error .rateTooLarge :=
    Settings.stepInterval_of_overflows rated beyond
  refine ⟨?_, ?_, overflow, ?_, ?_⟩
  · intro low
    have zero : ⌊t.toRat⌋ = 0 := Int.floor_eq_zero_iff.mpr ⟨le_of_lt cycle_pos, low⟩
    rw [zero] at refused
    exact refused (by decide)
  · intro high
    apply built
    exact Int.le_floor.mpr (by exact_mod_cast high)
  · intro fits
    exact Settings.stepInterval_of_not_overflows rated finite.1 rate_pos fits
  · intro c made
    obtain ⟨g, timers, period, -, rfl⟩ := ofSettings_eq_ok made
    have floor := Except.ok.inj (period.symm.trans whole)
    refine ⟨floor, timers.period_pos, ?_⟩
    intro orders
    let c : Computer (Supervised ω) := ⟨{ system.withRunner with
      machine := { system.withRunner.machine with generator := g } }, s, timers, 0⟩
    have idle : c.runner.thread ≠ some .alive := nofun
    have under : (c.started orders).supervised.Under orders 1 := under_started idle orders
    refine ⟨start_brief idle orders, rfl, rfl, rfl, ?_⟩
    intro clock n
    have behind := Pacing.deadline_start clock
    constructor
    · intro beyond
      exact follow_of_error (overflow beyond) clock n
    · intro interval has
      have follows : (c.started orders).follow clock n =
          loop clock interval n (.start clock) (c.started orders) := follow_of_ok has clock n
      refine ⟨?_, ?_, ?_⟩
      · rw [follows]
        exact accounted_loop clock interval n behind under
      · intro nonzero
        rw [follows]
        exact first_step_loop clock interval nonzero behind under rfl
      · intro long
        rw [follows]
        exact executed_loop_le clock interval n long _

/-- A machine whose program jumps to itself. -/
def looping : System Cast where
  machine :=
    let program : List UInt8 := [0x10, 0x00]
    { Machine.powerOn .unseeded with
      memory := Memory.store (Vector.replicate memorySize 0) 0 program }
  bus := ⟨[], .empty, []⟩

/-- A timer cycle of a half, which is refused; the least rate that overflows beside a timer cycle of
two and a half; a rate of a half, stopped at the third step; and one of `2 ^ -34`, which leaves too
long a time to wait. -/
theorem valid_settings_run_looping :
    let settings (rate timerCycle : Json) : Settings := ⟨.null, rate, timerCycle, .null⟩
    let orders := stopAt 3 none
    let last (rate : Json) : Computer (Supervised Cast) :=
      (started orders
        ⟨looping.withRunner, settings rate (.int 1), ⟨1, true, Nat.one_pos⟩, 0⟩).follow .still 5
    let half := Json.float ⟨0x3FE0000000000000⟩
    let large := settings (.int Binary64.overflowBound) (.float ⟨0x4004000000000000⟩)
    let slow := Json.float ⟨0x3DD0000000000000⟩
    ofSettings (settings (.int 200) half) looping.withRunner = .error (.timers (.period 0)) ∧
    (large.stepInterval = .error .rateTooLarge ∧
      ∃ c, ofSettings large looping.withRunner = .ok c ∧ c.timers.period = 2 ∧
        (c.started orders).follow .still 5 = (c.started orders).leave) ∧
    ((last half).executed = 3 ∧ (last half).lastFault = none ∧
      Order.stop ∈ Order.given orders (last half).supervised.supervisor.seen) ∧
    (last slow).executed = 1 ∧ (last slow).lastFault = none ∧
      (last slow).runner.isRunning = false := by
  intro settings orders last half large slow
  have made {rate timerCycle : Json} (checked : (settings rate timerCycle).check = .ok ()) :
      Settings.create .null rate timerCycle (Settings.seedValue none) =
        .ok (settings rate timerCycle) :=
    Settings.create_eq_ok_iff.mpr ⟨rfl, checked⟩
  have half_value : (⟨0x3FE0000000000000⟩ : Binary64).value = .finite false (2 ^ 52) (-53) := by
    decide +kernel
  have cycle_value :
      (⟨0x4004000000000000⟩ : Binary64).value = .finite false (5 * 2 ^ 50) (-51) := by
    decide +kernel
  have slow_value : (⟨0x3DD0000000000000⟩ : Binary64).value = .finite false (2 ^ 52) (-86) := by
    decide +kernel
  have half_rat : (Number.float ⟨0x3FE0000000000000⟩).toRat = 1 / 2 := by
    simp only [Number.toRat, Binary64.Value.toRat, half_value, Binary64.magnitude]
    norm_num
  have cycle_rat : (Number.float ⟨0x4004000000000000⟩).toRat = 5 / 2 := by
    simp only [Number.toRat, Binary64.Value.toRat, cycle_value, Binary64.magnitude]
    norm_num
  have least : (Number.integer Binary64.overflowBound).nonpositive = false := by decide +kernel
  refine ⟨?_, ?_, ?_, ?_⟩
  · have passed : (settings (.int 200) half).check = .ok () :=
      Settings.check_eq_ok_iff.mpr ⟨⟨_, rfl, by decide⟩, ⟨_, rfl, by decide +kernel⟩⟩
    obtain ⟨refused, -⟩ :=
      valid_settings_run (made passed) rfl rfl ⟨trivial, _, _, _, half_value⟩ looping
    apply refused
    rw [half_rat]
    norm_num
  · have passed : large.check = .ok () :=
      Settings.check_eq_ok_iff.mpr ⟨⟨_, rfl, least⟩, ⟨_, rfl, by decide +kernel⟩⟩
    obtain ⟨-, built, overflow, -, runs⟩ :=
      valid_settings_run (made passed) rfl rfl ⟨trivial, _, _, _, cycle_value⟩ looping
    have beyond : (Number.integer Binary64.overflowBound).Overflows := (Int.natAbs_natCast _).ge
    have whole : ⌊(Number.float ⟨0x4004000000000000⟩).toRat⌋ = 2 := by
      rw [cycle_rat]
      norm_num
    obtain ⟨c, computer⟩ := built (by rw [cycle_rat]; norm_num)
    obtain ⟨period, -, run⟩ := runs c computer
    obtain ⟨-, -, -, -, goes⟩ := run orders
    obtain ⟨ends, -⟩ := goes .still 5
    rw [whole] at period
    exact ⟨overflow beyond, c, computer, by omega, ends beyond⟩
  · have passed : (settings half (.int 1)).check = .ok () :=
      Settings.check_eq_ok_iff.mpr ⟨⟨_, rfl, by decide +kernel⟩, ⟨_, rfl, by decide⟩⟩
    obtain ⟨-, -, -, interval, runs⟩ :=
      valid_settings_run (made passed) rfl rfl ⟨⟨_, _, _, half_value⟩, trivial⟩ looping
    obtain ⟨seconds, has, waits⟩ := interval id
    have waited : seconds.canWait = true := waits (by rw [half_rat]; norm_num)
    obtain ⟨-, -, run⟩ := runs _ rfl
    obtain ⟨-, -, -, -, goes⟩ := run orders
    obtain ⟨-, accounts⟩ := goes .still 5
    obtain ⟨accounted, -⟩ := accounts seconds has
    have count : (last half).executed = 3 := by decide +kernel
    have unfailed : (last half).lastFault = none := by decide +kernel
    have rests : (last half).runner.isRunning = false := by decide +kernel
    refine ⟨count, unfailed, ?_⟩
    rcases accounted.rests rests with failed | stopped | long
    · have kept : (last half).lastFault.isSome := failed
      rw [unfailed] at kept
      cases kept
    · exact stopped
    · rw [waited] at long
      cases long
  · have passed : (settings slow (.int 1)).check = .ok () :=
      Settings.check_eq_ok_iff.mpr ⟨⟨_, rfl, by decide +kernel⟩, ⟨_, rfl, by decide⟩⟩
    obtain ⟨-, -, -, -, runs⟩ :=
      valid_settings_run (made passed) rfl rfl ⟨⟨_, _, _, slow_value⟩, trivial⟩ looping
    obtain ⟨-, -, run⟩ := runs _ rfl
    obtain ⟨-, -, -, -, goes⟩ := run orders
    obtain ⟨-, accounts⟩ := goes .still 5
    have has : (settings slow (.int 1)).stepInterval = .ok ⟨0x4210000000000000⟩ := by decide +kernel
    obtain ⟨-, first, once⟩ := accounts _ has
    have unfailed : (last slow).lastFault = none := by decide +kernel
    have rests : (last slow).runner.isRunning = false := by decide +kernel
    refine ⟨?_, unfailed, rests⟩
    apply Nat.le_antisymm
    · exact once (by decide +kernel)
    · refine (first (by decide)).resolve_right fun failed => ?_
      have kept : (last slow).lastFault.isSome := failed
      rw [unfailed] at kept
      cases kept

end Computer

end Chip8

import Chip8.Bench.Session
import Chip8.Proofs.Arithmetic
import Chip8.Proofs.Trace

/-!
# Waiting for a key

An instruction that asks for a key is carried out again and again until one is held.

* `Machine.Waits`: the instruction at PC asks for a key, and none is held. A step of such a machine
  does what the timers do and no more (`step_waits`), and so it goes on waiting (`Waits.advanced`).
* `steps_wait` adds up the steps; what they tell is told by the clock and the timers alone.
* `await_stutters`: a wait of any length leaves behind what the timers by themselves would, and a
  key ends it, also the key zero.
-/

namespace Chip8

/-- The machine waits for a key. -/
structure Machine.Waits (m : Machine) : Prop where
  asks : Operation.awaitKey.Encoded (m.readWord m.pc.toNat).toNat
  idle : m.key = none

/-- The moment tells of a step, of PC or of a timer. -/
def Moment.OfWait (x : Moment) : Prop :=
  ∃ e ∈ [Event.step, .register .pc, .register .dt, .register .st], x.telling = .event e

theorem Machine.goTo_pc (m : Machine) : m.goTo (some m.pc.toNat) = m := by
  simp only [Machine.goTo, Option.getD_some, wordOfInt_toNat]

namespace Timers

theorem advance_tells (t : Timers) (m : Machine) :
    ∃ l b, t.advance.course m = ⟨l, .ok b, t.advanced m⟩ ∧ ∀ x ∈ l, x.OfWait := by
  unfold advanced
  split
  · next ticks =>
    refine ⟨_, true, (t.course_advance m).trans (course_tick_ticks ticks), ?_⟩
    intro x hx
    simp only [List.mem_append, List.mem_ite_nil_right, List.mem_singleton] at hx
    rcases hx with ⟨-, rfl⟩ | ⟨-, rfl⟩
    · exact ⟨.register .dt, by simp, rfl⟩
    · exact ⟨.register .st, by simp, rfl⟩
  · next rests =>
    exact ⟨[], false, (t.course_advance m).trans (course_tick_rests rests), by simp⟩

theorem advanced_iterate_eq (t : Timers) (k : Nat) (m : Machine) :
    ∃ cycle dt st, t.advanced^[k] m = { m with cycle := cycle, dt := dt, st := st } := by
  induction k with
  | zero => exact ⟨m.cycle, m.dt, m.st, rfl⟩
  | succ k ih =>
    obtain ⟨cycle, dt, st, same⟩ := ih
    obtain ⟨cycle', dt', st', next⟩ := t.advanced_eq (t.advanced^[k] m)
    rw [Function.iterate_succ_apply', next, same]
    exact ⟨cycle', dt', st', rfl⟩

/-- Calls of the timers one after another, with nothing between them. -/
theorem yields_repeated (t : Timers) (k : Nat) :
    ∀ (bs : List Bool) (m : Machine),
      ∃ bs', (Bench.repeated t.advance k bs).Yields m bs' (t.advanced^[k] m) := by
  induction k with
  | zero => exact fun bs m => ⟨bs.reverse, [], rfl⟩
  | succ k ih =>
    intro bs m
    obtain ⟨b, first⟩ := t.yields_advance m
    obtain ⟨bs', later⟩ := ih (b :: bs) (t.advanced m)
    exact ⟨bs', first.bind later⟩

end Timers

namespace Machine.Waits

variable {m : Machine}

/-- Timers do not end a wait. -/
theorem advanced (h : m.Waits) (t : Timers) : (t.advanced m).Waits := by
  obtain ⟨cycle, dt, st, same⟩ := t.advanced_eq m
  rw [same]
  exact ⟨h.asks, h.idle⟩

/-- Without a key the instruction gives its own address. -/
theorem course_execute (h : m.Waits) :
    (System.execute (Computer.fetched m)).course m = ⟨[], .ok (some m.pc.toNat), m⟩ := by
  have awaits := System.execute_of_encoded h.asks
  rw [Computer.fetched, awaits]
  simp only [System.perform, Action.course_bind, System.course_look, Course.andThen_ok, h.idle,
    Action.course_pure, Course.behind_nil]

theorem course_instruction (h : m.Waits) :
    Computer.instruction.course m =
      ⟨[⟨m, .event .step⟩, ⟨m, .event (.register .pc)⟩], .ok (Computer.fetched m), m⟩ := by
  have course := Computer.course_instruction h.course_execute
  rw [m.goTo_pc] at course
  exact course

end Machine.Waits

namespace Computer

variable {ω : Type} [Observers ω] {c : Computer ω}

/-- **A step of a computer that waits** is no more than a count of the timers. -/
theorem step_waits (calm : Observers.Calm ω) (waits : c.system.machine.Waits) :
    ∃ l : List Moment, (∀ x ∈ l, x.OfWait) ∧
      perform step c = (.ok (fetched c.system.machine),
        { c.counted with
          system := ⟨c.timers.advanced c.system.machine, l.foldl Bus.hear c.system.bus⟩ }) := by
  let asked : List Moment :=
    [⟨c.system.machine, .event .step⟩, ⟨c.system.machine, .event (.register .pc)⟩]
  let announced : System ω := ⟨c.system.machine, asked.foldl Bus.hear c.system.bus⟩
  have told : ∀ x ∈ asked, x.OfWait := by simp [asked, Moment.OfWait]
  have executed : System.run instruction c.system = (.ok (fetched c.system.machine), announced) :=
    System.run_of_course calm waits.course_instruction
  obtain ⟨l, b, course, ticked⟩ := c.timers.advance_tells c.system.machine
  have advanced : System.run c.timers.advance announced =
      (.ok b, ⟨c.timers.advanced c.system.machine, l.foldl Bus.hear announced.bus⟩) :=
    System.run_of_course calm course
  refine ⟨asked ++ l, List.forall_mem_append.mpr ⟨told, ticked⟩, ?_⟩
  rw [perform_step, executed]
  dsimp only
  rw [advanced, List.foldl_append]

theorem steps_wait (calm : Observers.Calm ω) (k : Nat) :
    ∀ {c : Computer ω}, c.system.machine.Waits →
      ∃ l : List Moment, (∀ x ∈ l, x.OfWait) ∧
        perform (steps k) c = (.ok (),
          { c with
            system := ⟨c.timers.advanced^[k] c.system.machine, l.foldl Bus.hear c.system.bus⟩
            executed := c.executed + k }) := by
  induction k with
  | zero =>
    intro c _
    exact ⟨[], by simp, rfl⟩
  | succ k ih =>
    intro c waits
    obtain ⟨l, told, first⟩ := step_waits calm waits
    have next := ih (c := (perform step c).2)
    rw [first] at next
    obtain ⟨l', told', later⟩ := next (waits.advanced c.timers)
    refine ⟨l ++ l', List.forall_mem_append.mpr ⟨told, told'⟩, ?_⟩
    rw [steps, perform_bind, first]
    dsimp only
    rw [later, List.foldl_append]
    simp only [counted, Nat.add_assoc, Nat.add_comm 1, Function.iterate_succ_apply]

/-- A key wakes a computer that waits: the instruction takes it, and PC goes on. -/
theorem step_wakes (calm : Observers.Calm ω) (waits : c.system.machine.Waits) (key : Key) :
    let m := c.system.machine
    let pressed := perform (pressKey (some (.ofKey key))) c
    let woken := perform step pressed.2
    let m' := woken.2.system.machine
    pressed.1 = .ok () ∧ woken.1 = .ok (fetched m) ∧
      (m'.v.get (fetched m).operands.x).toNat = key ∧
      m'.pc.toNat = (m.pc.toNat + 2) % 65536 ∧ m'.key = some key := by
  intro m pressed woken m'
  let x := (fetched m).operands.x
  let held : Machine := { m with key := some key }
  let taken : Machine := { held with v := m.v.set x (UInt8.ofInt (key : Nat)) x.isLt }
  have press : pressed = (.ok (), { c with system := { c.system with machine := held } }) := by
    simp only [pressed, pressKey, perform_onSystem, System.press, KeyCode.key?_ofKey]
    rfl
  have first : (m.readWord m.pc.toNat).toNat / 4096 = 0xF := waits.asks.1
  have overflows : ¬ pressed.2.system.machine.Overflows := by
    rw [press]
    rintro ⟨call, -⟩
    cases call.symm.trans first
  have underflows : ¬ pressed.2.system.machine.Underflows := by
    rw [press]
    rintro ⟨ret, -⟩
    have ret : m.readWord m.pc.toNat = 0x00EE := ret
    rw [ret] at first
    cases first
  have takes : (System.execute (fetched m)).Yields held none taken := by
    have awaits := System.execute_of_encoded waits.asks
    rw [fetched, awaits]
    simp only [System.perform, Action.Yields, Action.course_bind, System.course_look,
      Course.andThen_ok, System.course_setV, Action.course_pure, held, Course.behind_mk]
    exact ⟨_, rfl⟩
  obtain ⟨d, ok⟩ := perform_step_ok calm overflows underflows
  obtain ⟨rfl, -, -, target, m₁, executed, after⟩ := step_eq_ok (Prod.ext ok rfl)
  rw [press] at executed
  obtain ⟨rfl, rfl⟩ := Action.Yields.unique executed takes
  have reached : m' = pressed.2.timers.advanced (taken.goTo none) := after
  refine ⟨congrArg Prod.fst press, by rw [ok, press]; rfl, ?_, ?_, ?_⟩
  · have register := Place.read_advanced (p := .v x) (by simp) (by simp) (by simp)
      pressed.2.timers (taken.goTo none)
    have value : m'.v.get x = UInt8.ofInt (key : Nat) := by
      rw [reached]
      exact register.trans (Arithmetic.get_set_self m.v x _)
    have small : (key : Nat) < 16 := key.isLt
    rw [value, toNat_byteOfInt]
    omega
  · have counter := Place.read_advanced (p := .pc) (by simp) (by simp) (by simp)
      pressed.2.timers (taken.goTo none)
    have value : m'.pc = UInt16.ofInt ((m.pc.toNat + 2 : Nat) : Int) := by
      rw [reached]
      exact counter
    rw [value, toNat_wordOfInt]
    omega
  · have kept := Place.read_advanced (p := .key) (by simp) (by simp) (by simp)
      pressed.2.timers (taken.goTo none)
    rw [reached]
    exact kept

/-- **A wait for a key is a stutter.** However many steps it lasts, it leaves behind what as many
calls of the timers alone would, and a count; all that is told of it is steps, PC and timers. A key
ends it with the next step, which takes the key into its register. Observers cannot write the
machine, so a key comes from outside. -/
theorem await_stutters (calm : Observers.Calm ω) (c : Computer ω) (waits : c.system.machine.Waits)
    (k : Nat) :
    let m := c.system.machine
    let waited := perform (run k) c
    let m' := waited.2.system.machine
    let ticked := System.run (Bench.repeated c.timers.advance k []) c.system
    (waited.1 = .ok k ∧ waited.2.executed = c.executed + k ∧
      (∀ p : Place, p ≠ .cycle → p ≠ .dt → p ≠ .st → p.read m' = p.read m) ∧
      m'.cycle = ticked.2.machine.cycle ∧ m'.dt = ticked.2.machine.dt ∧
      m'.st = ticked.2.machine.st ∧
      ∃ l : List Moment, (∀ x ∈ l, x.OfWait) ∧
        waited.2.system.bus = l.foldl Bus.hear c.system.bus) ∧
    ∀ key : Key,
      let pressed := perform (pressKey (some (.ofKey key))) waited.2
      let woken := perform step pressed.2
      let m'' := woken.2.system.machine
      pressed.1 = .ok () ∧ woken.1 = .ok (fetched m) ∧
        (m''.v.get (fetched m).operands.x).toNat = key ∧
        m''.pc.toNat = (m.pc.toNat + 2) % 65536 ∧ m''.key = some key := by
  intro m waited m' ticked
  obtain ⟨l, told, steps⟩ := steps_wait calm k waits
  have run : waited = (.ok k, { c with
      system := ⟨c.timers.advanced^[k] m, l.foldl Bus.hear c.system.bus⟩
      executed := c.executed + k }) := by
    simp only [waited, Computer.run, perform_bind, Int.toNat_natCast, steps, perform_pure, m]
  obtain ⟨bs, alone⟩ := c.timers.yields_repeated k [] m
  have same : m' = ticked.2.machine := by
    simp only [m', run]
    exact (System.run_of_yields calm alone).2.symm
  obtain ⟨cycle, dt, st, timed⟩ := c.timers.advanced_iterate_eq k m
  have m'_eq : m' = { m with cycle := cycle, dt := dt, st := st } := by
    simp only [m', run, timed]
  constructor
  · refine ⟨congrArg Prod.fst run, by rw [run], ?_, by rw [same], by rw [same], by rw [same],
      l, told, by rw [run]⟩
    intro p hcycle hdt hst
    rw [m'_eq]
    cases p with
    | cycle => exact absurd rfl hcycle
    | dt => exact absurd rfl hdt
    | st => exact absurd rfl hst
    | _ => rfl
  · intro key pressed woken m''
    have still : waited.2.system.machine.Waits := by
      change m'.Waits
      rw [m'_eq]
      exact ⟨waits.asks, waits.idle⟩
    have unread : fetched waited.2.system.machine = fetched m := by
      change fetched m' = fetched m
      rw [m'_eq]
      rfl
    have sameCounter : waited.2.system.machine.pc = m.pc := by
      change m'.pc = m.pc
      rw [m'_eq]
    obtain ⟨accepted, ok, register, counter, kept⟩ := step_wakes calm still key
    rw [unread] at ok register
    rw [sameCounter] at counter
    exact ⟨accepted, ok, register, counter, kept⟩

/-- A computer that asks for a key with the last byte of memory and the first. -/
def asking : Computer Transcript :=
  let memory : Memory := ((Vector.replicate memorySize 0).set 0xFFF 0xF3).set 0 0x0A
  let bus : Bus Transcript := ⟨[⟨.monitor, none⟩], ⟨[]⟩, []⟩
  let m : Machine := { Machine.powerOn .unseeded with
    memory := memory, v := Vector.replicate registerCount 9, pc := 0xFFFF, dt := 2, st := 1 }
  { fresh bus with system := ⟨m, bus⟩ }

/-- Three waits run the sound timer out; the key zero then ends them. -/
theorem await_stutters_asking :
    let waited := perform (run (3 : Nat)) asking
    let woken := perform step (perform (pressKey (some (.ofKey ⟨0, by decide⟩))) waited.2).2
    asking.system.machine.Waits ∧ waited.1 = .ok 3 ∧ waited.2.system.machine.pc = 0xFFFF ∧
      waited.2.system.machine.st = 0 ∧ (woken.2.system.machine.v.get ⟨3, by decide⟩).toNat = 0 ∧
      woken.2.system.machine.pc.toNat = 1 := by
  dsimp only
  have word : asking.system.machine.readWord asking.system.machine.pc.toNat = 0xF30A := by
    decide +kernel
  have waits : asking.system.machine.Waits := ⟨by rw [word]; exact ⟨rfl, rfl⟩, rfl⟩
  have x : (fetched asking.system.machine).operands.x = ⟨3, by decide⟩ := by decide +kernel
  obtain ⟨⟨finished, -, kept, -, -, timer, -⟩, wakes⟩ :=
    await_stutters calm_transcript asking waits 3
  obtain ⟨-, -, register, counter, -⟩ := wakes ⟨0, by decide⟩
  have still := kept .pc (by simp) (by simp) (by simp)
  rw [x] at register
  dsimp only [Place.read] at still
  rw [still, timer]
  exact ⟨waits, finished, rfl, by decide +kernel, register, counter⟩

end Computer

end Chip8

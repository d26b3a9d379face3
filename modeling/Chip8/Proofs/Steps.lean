import Chip8.Proofs.Control
import Chip8.Proofs.Places

/-!
# Steps that succeed

What a step does to the machine when nothing fails, told once.

* `Action.Yields`: the action ends with a result and a machine. A run that ends with a result ends
  there (`yields_of_run`), and a sequence yields what its parts do (`Yields.of_bind`).
* `Timers.advanced` is the machine after the timers (`yields_advance`); `Machine.goTo` moves PC.
* `step_eq_ok`: a step that succeeds executes the instruction at PC, moves PC and advances the
  timers, and nothing else. `read_of_step` says which places it leaves alone.
-/

namespace Chip8

namespace Action

variable {α β γ : Type}

/-- Where nobody fails, the action ends with a result and a machine. -/
def Yields (a : Action α) (m : Machine) (x : α) (m' : Machine) : Prop :=
  ∃ l, a.course m = ⟨l, .ok x, m'⟩

theorem Yields.bind {a : Action α} {f : α → Action β} {m m₁ m' : Machine} {x : α} {y : β}
    (ha : a.Yields m x m₁) (hf : (f x).Yields m₁ y m') : (a >>= f).Yields m y m' := by
  obtain ⟨l, ha⟩ := ha
  obtain ⟨l', hf⟩ := hf
  exact ⟨l ++ l', by rw [course_bind, ha, Course.andThen_ok, hf, Course.behind_mk]⟩

/-- An action under a condition, and what goes on from it either way. -/
theorem course_ite_bind {p : Prop} [Decidable p] {a : Action Unit} {rest : Action β}
    {m m' : Machine} {l : List Moment} (taken : p → a.course m = ⟨l, .ok (), m'⟩)
    (passed : ¬ p → m' = m) : (if p then a >>= fun _ => rest else rest).course m =
      (rest.course m').behind (if p then l else []) := by
  by_cases hp : p
  · rw [if_pos hp, if_pos hp, course_bind, taken hp, Course.andThen_ok]
  · rw [if_neg hp, if_neg hp, passed hp, Course.behind_nil]

theorem Yields.of_bind {a : Action α} {f : α → Action β} {m m' : Machine} {y : β}
    (h : (a >>= f).Yields m y m') : ∃ x m₁, a.Yields m x m₁ ∧ (f x).Yields m₁ y m' := by
  obtain ⟨l, h⟩ := h
  rw [course_bind] at h
  cases ha : a.course m with
  | mk l₁ result m₁ =>
    rw [ha] at h
    cases result with
    | error cause => cases h
    | ok x =>
      refine ⟨x, m₁, ⟨l₁, ha⟩, ?_⟩
      rw [Course.andThen_ok] at h
      cases hf : (f x).course m₁ with
      | mk l₂ result m₂ =>
        rw [hf, Course.behind_mk] at h
        obtain ⟨-, rfl, rfl⟩ := Course.mk.inj h
        exact ⟨l₂, hf⟩

theorem Yields.unique {a : Action α} {m m₁ m₂ : Machine} {x y : α} (h₁ : a.Yields m x m₁)
    (h₂ : a.Yields m y m₂) : x = y ∧ m₁ = m₂ := by
  obtain ⟨l₁, h₁⟩ := h₁
  obtain ⟨l₂, h₂⟩ := h₂
  obtain ⟨-, hx, hm⟩ := Course.mk.inj (h₁.symm.trans h₂)
  exact ⟨Except.ok.inj hx, hm⟩

theorem Yields.of_bind_yields {a : Action α} {f : α → Action β} {m m₁ m' : Machine} {x : α}
    {y : β} (h : (a >>= f).Yields m y m') (ha : a.Yields m x m₁) : (f x).Yields m₁ y m' := by
  obtain ⟨x', m', ha', hf⟩ := h.of_bind
  obtain ⟨rfl, rfl⟩ := ha.unique ha'
  exact hf

theorem LeavesAt.of_yields {F : Machine → γ} {a : Action α} {m m' : Machine} {x : α}
    (h : a.LeavesAt F m) (hy : a.Yields m x m') : F m' = F m := by
  obtain ⟨l, hy⟩ := hy
  unfold LeavesAt at h
  rw [hy] at h
  exact h.ok x rfl

end Action

/-- A run that ends with a result ends as its course does. -/
theorem System.yields_of_run {ω α : Type} [Observers ω] {a : Action α} {s s' : System ω} {x : α}
    (h : run a s = (.ok x, s')) : a.Yields s.machine x s'.machine := by
  rw [run_eq_play] at h
  cases hc : a.course s.machine with
  | mk l result m =>
    rw [hc, Course.play] at h
    dsimp only at h
    obtain ⟨rfl, hm⟩ := Course.playOn_ok l s.bus (congrArg Prod.fst h)
    rw [h] at hm
    exact ⟨l, hm ▸ hc⟩

/-! ## Timers -/

/-- A timer one lower, unless it is at zero. -/
def lowered (b : UInt8) : UInt8 := if b = 0 then 0 else b - 1

theorem toNat_lowered (b : UInt8) : (lowered b).toNat = b.toNat - 1 := by
  unfold lowered
  split
  · next h => rw [h]; rfl
  · next h =>
    have hb : b.toNat ≠ 0 := fun e => h (UInt8.toNat_inj.mp e)
    have := b.toNat_lt
    rw [UInt8.toNat_sub]
    simp only [UInt8.reduceToNat]
    omega

theorem byteOfInt_sub_one {b : UInt8} (h : b ≠ 0) :
    UInt8.ofInt ((b.toNat : Int) - 1) = lowered b := by
  have hb : b.toNat ≠ 0 := fun e => h (UInt8.toNat_inj.mp e)
  have := b.toNat_lt
  apply UInt8.toNat_inj.mp
  rw [toNat_byteOfInt, toNat_lowered]
  omega

namespace Timers

open Chip8.System Chip8.Action

/-- The machine with its cycle one further. -/
def count (t : Timers) (m : Machine) : Machine :=
  { m with cycle := (m.cycle.value + 1) % (t.period : Int) }

/-- The machine after the timers counted one more instruction. -/
def advanced (t : Timers) (m : Machine) : Machine :=
  if (t.count m).cycle.value = 0 ∧ t.enabled then
    { t.count m with dt := lowered m.dt, st := lowered m.st }
  else t.count m

/-- The timers reach the cycle, DT and ST alone. -/
theorem advanced_eq (t : Timers) (m : Machine) :
    ∃ cycle dt st, t.advanced m = { m with cycle := cycle, dt := dt, st := st } := by
  unfold advanced
  split
  · exact ⟨_, _, _, rfl⟩
  · exact ⟨_, _, _, rfl⟩

/-- A tick lowers each timer that is not at zero, and tells of it. -/
theorem course_tick_ticks {t : Timers} {m : Machine} (h : m.cycle.value = 0 ∧ t.enabled) :
    let delayed : Machine := { m with dt := lowered m.dt }
    let sounded : Machine := { delayed with st := lowered m.st }
    t.tick.course m = ⟨(if m.dt ≠ 0 then [⟨delayed, .event (.register .dt)⟩] else []) ++
      (if m.st ≠ 0 then [⟨sounded, .event (.register .st)⟩] else []), .ok true, sounded⟩ := by
  intro delayed sounded
  have ticks : ¬ (m.cycle.value ≠ 0 || !t.enabled) := by simp [h]
  have zero {b : UInt8} (hb : ¬ b ≠ 0) : lowered b = b := by rw [not_not.mp hb]; rfl
  have lower_dt (hdt : m.dt ≠ 0) : (setDt ((m.dt.toNat : Int) - 1)).course m =
      ⟨[⟨delayed, .event (.register .dt)⟩], .ok (), delayed⟩ := by
    simp only [delayed, ← byteOfInt_sub_one hdt]
    exact course_setDt _ m
  have keep_dt (hdt : ¬ m.dt ≠ 0) : delayed = m := by simp only [delayed, zero hdt]
  have lower_st (hst : m.st ≠ 0) : (setSt ((m.st.toNat : Int) - 1)).course delayed =
      ⟨[⟨sounded, .event (.register .st)⟩], .ok (), sounded⟩ := by
    simp only [sounded, ← byteOfInt_sub_one hst]
    exact course_setSt _ delayed
  have keep_st (hst : ¬ m.st ≠ 0) : sounded = delayed := by
    simp only [sounded, delayed, zero hst]
  rw [tick, course_bind, course_look, Course.andThen_ok, Course.behind_nil, if_neg ticks]
  refine (course_ite_bind lower_dt keep_dt).trans ?_
  -- ST is looked at once DT is written, on a machine with the same ST
  rw [course_bind, course_look, Course.andThen_ok, Course.behind_nil]
  refine (congrArg _ (course_ite_bind lower_st keep_st)).trans ?_
  rw [course_pure, Course.behind_mk, Course.behind_mk, List.append_nil]

theorem course_tick_rests {t : Timers} {m : Machine} (h : ¬ (m.cycle.value = 0 ∧ t.enabled)) :
    t.tick.course m = ⟨[], .ok false, m⟩ := by
  have rests : m.cycle.value ≠ 0 || !t.enabled := by simpa [Classical.or_iff_not_imp_left] using h
  rw [tick, course_bind, course_look, Course.andThen_ok, Course.behind_nil, if_pos rests,
    course_pure]

theorem course_advance (t : Timers) (m : Machine) :
    t.advance.course m = t.tick.course (t.count m) := by
  rw [advance_eq, course_bind, course_change, Course.andThen_ok, Course.behind_nil]
  rfl

theorem yields_advance (t : Timers) (m : Machine) : ∃ b, t.advance.Yields m b (t.advanced m) := by
  unfold advanced
  split
  · next ticks => exact ⟨true, _, (t.course_advance m).trans (course_tick_ticks ticks)⟩
  · next rests => exact ⟨false, _, (t.course_advance m).trans (course_tick_rests rests)⟩

end Timers

/-- The machine with PC at an address, or at the next instruction. -/
def Machine.goTo (m : Machine) (target : Option Nat) : Machine :=
  { m with pc := UInt16.ofInt (target.getD m.nextPc : Nat) }

namespace Place

variable {p : Place}

theorem read_goTo (h : p ≠ .pc) (m : Machine) (target : Option Nat) :
    p.read (m.goTo target) = p.read m := read_set_pc h m _

theorem read_advanced (cycle : p ≠ .cycle) (dt : p ≠ .dt) (st : p ≠ .st) (t : Timers)
    (m : Machine) : p.read (t.advanced m) = p.read m := by
  obtain ⟨cycle', dt', st', advanced⟩ := t.advanced_eq m
  rw [advanced]
  cases p with
  | cycle => exact absurd rfl cycle
  | dt => exact absurd rfl dt
  | st => exact absurd rfl st
  | _ => rfl

end Place

namespace Computer

variable {ω : Type} [Observers ω] {c c' : Computer ω} {d : Decoded}

theorem yields_instruction {m m' : Machine} (h : instruction.Yields m d m') :
    d = fetched m ∧ ∃ target m₁, (System.execute d).Yields m target m₁ ∧ m' = m₁.goTo target := by
  have fetching := h.of_bind_yields ⟨_, System.course_notify _ m⟩
  have executing := fetching.of_bind_yields ⟨_, System.course_look m⟩
  obtain ⟨target, m₁, executed, looking⟩ := executing.of_bind
  have moving := looking.of_bind_yields ⟨_, System.course_look m₁⟩
  have returning := moving.of_bind_yields ⟨_, System.course_setPc _ m₁⟩
  obtain ⟨rfl, rfl⟩ := returning.unique ⟨_, Action.course_pure _ _⟩
  exact ⟨rfl, target, m₁, executed, rfl⟩

/-- **A step that succeeds** executes the instruction at PC, moves PC, counts and lets the timers
advance. -/
theorem step_eq_ok (h : perform step c = (.ok d, c')) :
    d = fetched c.system.machine ∧ c'.timers = c.timers ∧ c'.executed = c.executed + 1 ∧
      ∃ target m, (System.execute d).Yields c.system.machine target m ∧
        c'.system.machine = c.timers.advanced (m.goTo target) := by
  rw [perform_step] at h
  cases hi : System.run instruction c.system with
  | mk result s =>
    rw [hi] at h
    cases result with
    | error cause => cases h
    | ok d' =>
      cases ha : System.run c.timers.advance s with
      | mk result' s' =>
        simp only [ha] at h
        cases result' with
        | error cause => cases h
        | ok b =>
          obtain ⟨hd, rfl⟩ := Prod.mk.inj h
          obtain rfl := Except.ok.inj hd
          obtain ⟨fetched, target, m, executed, gone⟩ :=
            yields_instruction (System.yields_of_run hi)
          obtain ⟨_, advanced⟩ := c.timers.yields_advance s.machine
          obtain ⟨-, hm⟩ := (System.yields_of_run ha).unique advanced
          exact ⟨fetched, rfl, rfl, target, m, executed, gone ▸ hm⟩

/-- A step that succeeds leaves alone what its instruction does, but for PC and the timers. -/
theorem read_of_step {p : Place} (h : perform step c = (.ok d, c'))
    (unwritten : ¬ d.Writes c.system.machine p) (pc : p ≠ .pc) (cycle : p ≠ .cycle)
    (dt : p ≠ .dt) (st : p ≠ .st) : p.read c'.system.machine = p.read c.system.machine := by
  obtain ⟨-, -, -, target, m, executed, hm⟩ := step_eq_ok h
  calc
    p.read c'.system.machine = p.read (m.goTo target) :=
      hm ▸ Place.read_advanced cycle dt st c.timers _
    _ = p.read m := Place.read_goTo pc m target
    _ = p.read c.system.machine := (System.leavesAt_execute unwritten).of_yields executed

end Computer

end Chip8

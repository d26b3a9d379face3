import Chip8.Proofs.Flips
import Chip8.Proofs.Writes

/-!
# Nothing goes untold

Whoever copies what each event names always has what the machine has.

* A `Mirror` is a copy of memory and registers; `Mirror.follow` brings it up to date with one event.
* `Mirror.Lags`: the copy is right but for what an event names. Copying more of the same machine
  does not put it further behind (`Lags.follow`), as each part goes toward the machine's
  (`Mirror.Toward`).
* `Tells`: along an action's course the mirror of each moment follows from the one before, and no
  write stays untold at the end, be it a result or a refusal. One lemma for each store; a drawn
  row stays within the bytes that are told (`tells_drawRows`).
-/

namespace Chip8

/-- The V register that the event names, if it names one, is there. -/
def Event.Sound (e : Event) : Prop :=
  ∀ index, e = .register (.v index) →
    ∃ k : VIndex, resolveIndex .buffer registerCount index.value = .ok k

/-- The bytes of a window come from the first memory, the others from the second. -/
def Memory.overlay (w : Window memorySize) (inside outside : Memory) : Memory :=
  Vector.ofFn fun a =>
    if w.start ≤ a.val ∧ a.val < w.start + w.size then inside.get a else outside.get a

theorem Memory.get_overlay (w : Window memorySize) (inside outside : Memory) (a : Fin memorySize) :
    (overlay w inside outside).get a =
      if w.start ≤ a.val ∧ a.val < w.start + w.size then inside.get a else outside.get a :=
  Vector.getElem_ofFn a.isLt

/-- A copy of memory and of the registers. -/
@[ext] structure Mirror where
  memory : Memory
  v : Vector UInt8 registerCount
  i : UInt16
  pc : UInt16
  sp : UInt8
  dt : UInt8
  st : UInt8

namespace Mirror

/-- The copy of a machine as it is. -/
def of (m : Machine) : Mirror := ⟨m.memory, m.v, m.i, m.pc, m.sp, m.dt, m.st⟩

/-- The bytes of a window are copied. -/
def copyBytes (c : Mirror) (w : Window memorySize) (m : Machine) : Mirror :=
  { c with memory := Memory.overlay w m.memory c.memory }

/-- What an event names is copied from the machine. -/
def follow (c : Mirror) (e : Event) (m : Machine) : Except IndexFault Mirror :=
  match e with
  | .memory offset length =>
    .ok (c.copyBytes (.slice memorySize offset.value (offset.value + length.value)) m)
  | .register .i => .ok { c with i := m.i }
  | .register .pc => .ok { c with pc := m.pc }
  | .register .sp => .ok { c with sp := m.sp }
  | .register .dt => .ok { c with dt := m.dt }
  | .register .st => .ok { c with st := m.st }
  | .register (.v index) => do
    let k ← resolveIndex .buffer registerCount index.value
    return { c with v := c.v.set k (m.v.get k) k.isLt }
  | .cleared | .drawn _ _ _ | .step => .ok c

variable {c d c' d' : Mirror} {e e' : Event} {m : Machine}

theorem follow_of_resolve {index : WholeNumber} {k : VIndex}
    (hk : resolveIndex .buffer registerCount index.value = .ok k) (c : Mirror) (m : Machine) :
    c.follow (.register (.v index)) m = .ok { c with v := c.v.set k (m.v.get k) k.isLt } := by
  simp only [follow, hk, bind, Except.bind, pure, Except.pure]

theorem exists_follow (sound : e.Sound) (c : Mirror) (m : Machine) :
    ∃ d, c.follow e m = .ok d := by
  cases e with
  | memory | cleared | drawn | step => exact ⟨_, rfl⟩
  | register name =>
    cases name with
    | i | pc | sp | dt | st => exact ⟨_, rfl⟩
    | v index =>
      obtain ⟨k, hk⟩ := sound index rfl
      exact ⟨_, follow_of_resolve hk c m⟩

theorem sound_of_follow (h : c.follow e m = .ok d) : e.Sound := by
  rintro index rfl
  cases hk : resolveIndex .buffer registerCount index.value with
  | error cause =>
    rw [follow, hk] at h
    cases h
  | ok k => exact ⟨k, rfl⟩

/-- Each part of the second copy is that of the first one, or the machine's. -/
structure Toward (m : Machine) (c d : Mirror) : Prop where
  memory : ∀ a : Fin memorySize, d.memory.get a = c.memory.get a ∨ d.memory.get a = m.memory.get a
  v : ∀ k : VIndex, d.v.get k = c.v.get k ∨ d.v.get k = m.v.get k
  i : d.i = c.i ∨ d.i = m.i
  pc : d.pc = c.pc ∨ d.pc = m.pc
  sp : d.sp = c.sp ∨ d.sp = m.sp
  dt : d.dt = c.dt ∨ d.dt = m.dt
  st : d.st = c.st ∨ d.st = m.st

theorem Toward.refl (m : Machine) (c : Mirror) : Toward m c c :=
  ⟨fun _ => .inl rfl, fun _ => .inl rfl, .inl rfl, .inl rfl, .inl rfl, .inl rfl, .inl rfl⟩

theorem Toward.eq_of (h : Toward m (of m) d) : d = of m := by
  refine Mirror.ext ?_ ?_ (or_self_iff.mp h.i) (or_self_iff.mp h.pc) (or_self_iff.mp h.sp)
    (or_self_iff.mp h.dt) (or_self_iff.mp h.st)
  · exact Vector.ext fun a ha => or_self_iff.mp (h.memory ⟨a, ha⟩)
  · exact Vector.ext fun k hk => or_self_iff.mp (h.v ⟨k, hk⟩)

theorem Toward.withMemory (h : Toward m c d) {memory memory' : Memory}
    (bytes : ∀ a : Fin memorySize, memory'.get a = memory.get a ∨ memory'.get a = m.memory.get a) :
    Toward m { c with memory := memory } { d with memory := memory' } :=
  ⟨bytes, h.v, h.i, h.pc, h.sp, h.dt, h.st⟩

theorem get_set (v : Vector UInt8 registerCount) (k l : VIndex) (b : UInt8) :
    (v.set k b k.isLt).get l = if k = l then b else v.get l :=
  (Vector.getElem_set k.isLt l.isLt).trans
    (ite_congr (propext Fin.val_inj) (fun _ => rfl) fun _ => rfl)

theorem toward_follow (h : c.follow e m = .ok d) : Toward m c d := by
  cases e with
  | memory offset length =>
    rw [follow, Except.ok.injEq] at h
    subst h
    refine (Toward.refl m c).withMemory fun a => ?_
    rw [Memory.get_overlay]
    split
    · exact .inr rfl
    · exact .inl rfl
  | cleared | drawn | step =>
    obtain rfl := Except.ok.inj h
    exact .refl m c
  | register name =>
    cases name with
    | i => cases h; exact { Toward.refl m c with i := .inr rfl }
    | pc => cases h; exact { Toward.refl m c with pc := .inr rfl }
    | sp => cases h; exact { Toward.refl m c with sp := .inr rfl }
    | dt => cases h; exact { Toward.refl m c with dt := .inr rfl }
    | st => cases h; exact { Toward.refl m c with st := .inr rfl }
    | v index =>
      obtain ⟨k, hk⟩ := sound_of_follow h index rfl
      rw [follow_of_resolve hk] at h
      obtain rfl := Except.ok.inj h
      refine { Toward.refl m c with v := fun l => ?_ }
      rw [get_set]
      split
      · next same => exact .inr (same ▸ rfl)
      · exact .inl rfl

/-- What one event names is copied on both sides. -/
theorem Toward.follow (h : Toward m c d) (hc : c.follow e m = .ok c') (hd : d.follow e m = .ok d') :
    Toward m c' d' := by
  cases e with
  | memory offset length =>
    rw [Mirror.follow, Except.ok.injEq] at hc hd
    subst hc hd
    refine h.withMemory fun a => ?_
    rw [Memory.get_overlay, Memory.get_overlay]
    split
    · exact .inr rfl
    · exact h.memory a
  | cleared | drawn | step =>
    obtain rfl := Except.ok.inj hc
    obtain rfl := Except.ok.inj hd
    exact h
  | register name =>
    cases name with
    | i => cases hc; cases hd; exact { h with i := .inr rfl }
    | pc => cases hc; cases hd; exact { h with pc := .inr rfl }
    | sp => cases hc; cases hd; exact { h with sp := .inr rfl }
    | dt => cases hc; cases hd; exact { h with dt := .inr rfl }
    | st => cases hc; cases hd; exact { h with st := .inr rfl }
    | v index =>
      obtain ⟨k, hk⟩ := sound_of_follow hc index rfl
      rw [follow_of_resolve hk] at hc hd
      obtain rfl := Except.ok.inj hc
      obtain rfl := Except.ok.inj hd
      refine { h with v := fun l => ?_ }
      rw [get_set, get_set]
      split
      · exact .inl rfl
      · exact h.v l

/-- The copy is right but for what an event names. -/
def Lags (c : Mirror) (e : Event) (m : Machine) : Prop := c.follow e m = .ok (of m)

theorem lags_step (c : Mirror) (m : Machine) : c.Lags .step m ↔ c = of m := by
  rw [Lags, Mirror.follow, Except.ok.injEq]

/-- Who copies more of the machine falls no further behind. -/
theorem Lags.follow (h : c.Lags e m) (more : c.follow e' m = .ok d) : d.Lags e m := by
  obtain ⟨d', hd⟩ := exists_follow (sound_of_follow h) d m
  have toward : Toward m (of m) d' := (toward_follow more).follow h hd
  exact hd.trans (congrArg Except.ok toward.eq_of)

theorem lags_setV {index : WholeNumber} {k : VIndex}
    (hk : resolveIndex .buffer registerCount index.value = .ok k) (m : Machine) (b : UInt8) :
    (of m).Lags (.register (.v index)) { m with v := m.v.set k b k.isLt } := by
  have written : (m.v.set k b k.isLt).get k = b := Vector.getElem_set_self k.isLt
  simp only [Lags, follow_of_resolve hk, of, written]

/-- Bytes written within the stretch that is told are copied. -/
theorem lags_memory {offset length : WholeNumber} {start size : Nat}
    (ho : offset.value = start) (hl : length.value = size) (fits : start + size ≤ memorySize)
    (m : Machine) {memory : Memory}
    (untouched : ∀ a (h : a < memorySize), a < start ∨ start + size ≤ a →
      memory[a] = m.memory[a]) :
    (of m).Lags (.memory offset length) { m with memory := memory } := by
  have hs : (Window.slice memorySize offset.value (offset.value + length.value)).start = start := by
    simp only [Window.slice, Window.clamp, ho]
    split <;> omega
  have hn : (Window.slice memorySize offset.value (offset.value + length.value)).size = size := by
    simp only [Window.slice, Window.clamp, ho, hl]
    split <;> split <;> omega
  have copied : Memory.overlay (.slice memorySize offset.value (offset.value + length.value)) memory
      m.memory = memory := by
    refine Vector.ext fun a ha => ?_
    refine (Memory.get_overlay _ _ _ ⟨a, ha⟩).trans ?_
    rw [hs, hn]
    by_cases h : start ≤ a ∧ a < start + size
    · exact if_pos h
    · exact (if_neg h).trans (untouched a ha (by omega)).symm
  simp only [Lags, follow, copyBytes, of, copied]

end Mirror

/-- From one copy to another: each event brings the copy up to date. -/
def ToldFrom : Mirror → List Moment → Mirror → Prop
  | a, [], b => a = b
  | a, ⟨_, .record _⟩ :: rest, b => ToldFrom a rest b
  | a, ⟨m, .event e⟩ :: rest, b => a.Lags e m ∧ ToldFrom (.of m) rest b

theorem ToldFrom.append {a b d : Mirror} {l l' : List Moment} (h : ToldFrom a l b)
    (h' : ToldFrom b l' d) : ToldFrom a (l ++ l') d := by
  induction l generalizing a with
  | nil => exact h ▸ h'
  | cons x rest ih =>
    obtain ⟨m, t⟩ := x
    cases t with
    | record r => exact ih h
    | event e => exact ⟨h.1, ih h.2⟩

/-- All that is written on the course is told, in time. -/
def Course.Told {α : Type} (start : Mirror) (c : Course α) : Prop :=
  ToldFrom start c.moments (.of c.machine)

theorem Course.Told.andThen {α β : Type} {start : Mirror} {c : Course α}
    {rest : α → Machine → Course β} (h : c.Told start)
    (next : ∀ x m, (rest x m).Told (.of m)) : (c.andThen rest).Told start := by
  obtain ⟨l, result, m⟩ := c
  cases result with
  | error cause => exact h
  | ok x => exact ToldFrom.append h (next x m)

namespace Action

variable {α β : Type}

/-- An action tells all that it writes. -/
structure Tells (a : Action α) : Prop where
  told : ∀ m, (a.course m).Told (.of m)

theorem Tells.pure (x : α) : (Pure.pure x : Action α).Tells := by
  refine ⟨fun m => ?_⟩
  rw [course_pure]
  rfl

theorem Tells.refuse (cause : Fault) : (System.refuse cause : Action α).Tells := by
  refine ⟨fun m => ?_⟩
  rw [System.course_refuse]
  rfl

theorem Tells.look : System.look.Tells := by
  refine ⟨fun m => ?_⟩
  rw [System.course_look]
  rfl

theorem Tells.report (r : LogRecord) : (System.report r).Tells := by
  refine ⟨fun m => ?_⟩
  rw [System.course_report]
  rfl

/-- What a copy does not show may be altered silently. -/
theorem Tells.change {f : Machine → Machine} (h : ∀ m, Mirror.of (f m) = Mirror.of m) :
    (System.change f).Tells := by
  refine ⟨fun m => ?_⟩
  rw [System.course_change]
  exact (h m).symm

theorem Tells.bind {a : Action α} {f : α → Action β} (ha : a.Tells) (hf : ∀ x, (f x).Tells) :
    (a >>= f).Tells := by
  refine ⟨fun m => ?_⟩
  rw [course_bind]
  exact (ha.told m).andThen fun x m' => (hf x).told m'

end Action

namespace System

open Chip8.Action

theorem tells_cleared : (notify .cleared).Tells := by
  refine ⟨fun m => ?_⟩
  rw [course_notify]
  exact ⟨rfl, rfl⟩

theorem tells_drawn (x y height : WholeNumber) : (notify (.drawn x y height)).Tells := by
  refine ⟨fun m => ?_⟩
  rw [course_notify]
  exact ⟨rfl, rfl⟩

theorem tells_step : (notify .step).Tells := by
  refine ⟨fun m => ?_⟩
  rw [course_notify]
  exact ⟨rfl, rfl⟩

theorem tells_setVAs {k : VIndex} {index : WholeNumber}
    (hk : resolveIndex .buffer registerCount index.value = .ok k) (x : Int) :
    (setVAs k index x).Tells := by
  refine ⟨fun m => ?_⟩
  rw [course_setVAs]
  exact ⟨Mirror.lags_setV hk m _, rfl⟩

theorem tells_setI (x : Int) : (setI x).Tells := by
  refine ⟨fun m => ?_⟩
  rw [course_setI]
  exact ⟨rfl, rfl⟩

theorem tells_setPc (x : Int) : (setPc x).Tells := by
  refine ⟨fun m => ?_⟩
  rw [course_setPc]
  exact ⟨rfl, rfl⟩

theorem tells_setSp (x : Int) : (setSp x).Tells := by
  refine ⟨fun m => ?_⟩
  rw [course_setSp]
  exact ⟨rfl, rfl⟩

theorem tells_setDt (x : Int) : (setDt x).Tells := by
  refine ⟨fun m => ?_⟩
  rw [course_setDt]
  exact ⟨rfl, rfl⟩

theorem tells_setSt (x : Int) : (setSt x).Tells := by
  refine ⟨fun m => ?_⟩
  rw [course_setSt]
  exact ⟨rfl, rfl⟩

theorem tells_setBytesAs (offset length : WholeNumber) (bytes : List UInt8) :
    (setBytesAs offset length bytes).Tells := by
  refine ⟨fun m => ?_⟩
  rw [course_setBytesAs]
  split
  · next h =>
    obtain ⟨ho, hl, fits⟩ := h
    refine ⟨Mirror.lags_memory (Int.toNat_of_nonneg ho).symm hl.symm fits m ?_, rfl⟩
    intro a ha outside
    rw [Memory.getElem_store, dif_neg (by omega)]
  · rfl

theorem tells_random : random.Tells :=
  .bind .look fun _ => .bind (.change fun _ => rfl) fun _ => .pure _

/-- A drawn row stays within the stretch that is told. -/
theorem tells_drawRows (x y rows : Nat) :
    ∀ (r : Nat) (hit : Bool), (drawRows x y r rows hit).Tells := by
  induction rows with
  | zero => exact fun _ _ => .pure _
  | succ rows ih =>
    intro r hit
    refine ⟨fun m => ?_⟩
    have drawn := m.flipRow_eq x (line (y + r)) (m.readByte (m.i.toNat + r : Nat))
    have fits := rowSpan_le (column x) (line (y + r))
    simp only [displaySize, displayEnd, displayStart] at fits
    rw [course_drawRows_succ]
    refine ⟨?_, (ih (r + 1) _).told _⟩
    rw [drawn]
    refine Mirror.lags_memory rfl rfl ?_ m ?_
    · simp only [displayStart, memorySize]
      omega
    · exact fun a ha outside => Machine.getElem_flipRow _ _ _ _ ha outside

theorem stores_tell : OfStores fun _ a => a.Tells where
  pure := .pure
  look := .look
  bind := .bind
  refuse := .refuse
  report := .report
  cleared := tells_cleared
  drawn := tells_drawn
  setVAs hk x := tells_setVAs hk x
  setI := tells_setI
  setDt := tells_setDt
  setSt := tells_setSt
  setBytesAs := tells_setBytesAs
  drawRows x y r rows hit := tells_drawRows x y rows r hit
  random := tells_random

theorem tells_pushStack (address : Int) : (pushStack address).Tells :=
  stores_tell.pushStack tells_setSp address

theorem tells_popStack : popStack.Tells := stores_tell.popStack tells_setSp

theorem tells_loadProgram (image : List UInt8) : (loadProgram image).Tells :=
  stores_tell.loadProgram tells_setPc image

theorem tells_reset : reset.Tells :=
  stores_tell.reset tells_setSp tells_setPc (.change fun _ => rfl)

theorem tells_execute (d : Decoded) : (execute d).Tells :=
  stores_tell.writers.execute d tells_pushStack tells_popStack

end System

end Chip8

import Chip8.Proofs.Frames

/-!
# Two machines side by side

What it means that two machines differ in hidden parts only, and that two actions do the same on
them.

* A `Veil` says which parts of a machine are hidden, and which operations do not look behind it.
  `Machine.Alike` machines agree on all other parts.
* `MomentsAlike`: they tell the same on their way, but for changes of a hidden ST, which one of them
  may tell alone.
* `Action.Alike`: from alike machines two actions go the same way, to the same result and to alike
  machines. The results of a look are never the same, so what follows it is compared as a whole
  (`Alike.look`).
-/

namespace Chip8

/-- Parts of a machine that may be hidden: ST, the bits 12 to 15 of I, the pending key and the
generator. -/
structure Veil where
  sound : Bool
  index : Bool
  key : Bool
  generator : Bool

/-- The operation does not look at a hidden key and does not draw from a hidden generator. -/
def Veil.Admits (d : Veil) : Operation → Prop
  | .skipIfKey | .skipUnlessKey | .awaitKey => d.key = false
  | .random => d.generator = false
  | _ => True

/-- The veil over ST and the upper bits of I, which admits every operation. -/
def Veil.inert : Veil := ⟨true, true, false, false⟩

theorem Veil.admits_inert (op : Operation) : inert.Admits op := by
  cases op <;> trivial

/-- The machines agree on everything but the hidden parts. -/
structure Machine.Alike (d : Veil) (m m' : Machine) : Prop where
  memory : m.memory = m'.memory
  v : m.v = m'.v
  pc : m.pc = m'.pc
  sp : m.sp = m'.sp
  dt : m.dt = m'.dt
  cycle : m.cycle = m'.cycle
  i_mod : m.i.toNat % memorySize = m'.i.toNat % memorySize
  i : d.index = false → m.i = m'.i
  st : d.sound = false → m.st = m'.st
  key : d.key = false → m.key = m'.key
  generator : d.generator = false → m.generator = m'.generator

namespace Machine.Alike

variable {d : Veil} {m m' : Machine}

theorem refl (d : Veil) (m : Machine) : m.Alike d m :=
  ⟨rfl, rfl, rfl, rfl, rfl, rfl, rfl, fun _ => rfl, fun _ => rfl, fun _ => rfl, fun _ => rfl⟩

theorem symm (h : m.Alike d m') : m'.Alike d m :=
  ⟨h.memory.symm, h.v.symm, h.pc.symm, h.sp.symm, h.dt.symm, h.cycle.symm, h.i_mod.symm,
    fun shown => (h.i shown).symm, fun shown => (h.st shown).symm,
    fun shown => (h.key shown).symm, fun shown => (h.generator shown).symm⟩

theorem trans {m'' : Machine} (h : m.Alike d m') (h' : m'.Alike d m'') : m.Alike d m'' :=
  ⟨h.memory.trans h'.memory, h.v.trans h'.v, h.pc.trans h'.pc, h.sp.trans h'.sp,
    h.dt.trans h'.dt, h.cycle.trans h'.cycle, h.i_mod.trans h'.i_mod,
    fun shown => (h.i shown).trans (h'.i shown), fun shown => (h.st shown).trans (h'.st shown),
    fun shown => (h.key shown).trans (h'.key shown),
    fun shown => (h.generator shown).trans (h'.generator shown)⟩

theorem readByte (h : m.Alike d m') (address : Int) : m.readByte address = m'.readByte address := by
  rw [Machine.readByte, h.memory]
  rfl

theorem readWord (h : m.Alike d m') (address : Int) : m.readWord address = m'.readWord address := by
  rw [Machine.readWord, h.readByte, h.readByte]
  rfl

theorem nextPc (h : m.Alike d m') : m.nextPc = m'.nextPc := by rw [Machine.nextPc, h.pc]; rfl

theorem skipPc (h : m.Alike d m') : m.skipPc = m'.skipPc := by rw [Machine.skipPc, h.pc]; rfl

/-- Addresses behind I are the same places. -/
theorem cell_add (h : m.Alike d m') (k : Int) :
    cell (m.i.toNat + k) = cell (m'.i.toNat + k) := by
  have same := h.i_mod
  apply Fin.ext
  simp only [cell, memorySize] at same ⊢
  omega

theorem set_v (h : m.Alike d m') (k : VIndex) (b : UInt8) :
    Alike d { m with v := m.v.set k b k.isLt } { m' with v := m'.v.set k b k.isLt } :=
  { h with v := congrArg (fun v : Vector UInt8 registerCount => v.set k b k.isLt) h.v }

theorem set_memory (h : m.Alike d m') (memory : Memory) :
    Alike d { m with memory := memory } { m' with memory := memory } :=
  { h with memory := rfl }

theorem pixel (h : m.Alike d m') (x : Fin displayWidth) (y : Fin displayHeight) :
    m.pixel x y = m'.pixel x y := by
  rw [Machine.pixel, h.memory]
  rfl

theorem setPixel (h : m.Alike d m') (x : Fin displayWidth) (y : Fin displayHeight) (lit : Bool) :
    (m.setPixel x y lit).Alike d (m'.setPixel x y lit) := by
  rw [Machine.setPixel, h.memory]
  exact h.set_memory _

theorem flipBits (x : Nat) (y : Fin displayHeight) (row : UInt8) (bits : List (Fin spriteWidth))
    (hit : Bool) (h : m.Alike d m') :
    (Machine.flipBits x y row bits (m, hit)).2 = (Machine.flipBits x y row bits (m', hit)).2 ∧
      (Machine.flipBits x y row bits (m, hit)).1.Alike d
        (Machine.flipBits x y row bits (m', hit)).1 := by
  induction bits generalizing m m' hit with
  | nil => exact ⟨rfl, h⟩
  | cons j rest ih =>
    simp only [Machine.flipBits, Machine.flipPixel, h.pixel]
    split
    · exact ih _ (h.setPixel _ _ _)
    · exact ih _ h

theorem flipRow (h : m.Alike d m') (x : Nat) (y : Fin displayHeight) (row : UInt8) :
    (m.flipRow x y row).2 = (m'.flipRow x y row).2 ∧
      (m.flipRow x y row).1.Alike d (m'.flipRow x y row).1 :=
  h.flipBits x y row _ false

theorem set_pc (h : m.Alike d m') (pc : UInt16) :
    Alike d { m with pc := pc } { m' with pc := pc } := { h with pc := rfl }

end Machine.Alike

/-- What two alike machines tell on their way. Only a change of ST may be told by one of them
alone, where ST is hidden. -/
inductive MomentsAlike (d : Veil) : List Moment → List Moment → Prop
  | nil : MomentsAlike d [] []
  | both {m m' : Machine} (t : Telling) {l l' : List Moment} (h : m.Alike d m')
      (rest : MomentsAlike d l l') : MomentsAlike d (⟨m, t⟩ :: l) (⟨m', t⟩ :: l')
  | left (m : Machine) {l l' : List Moment} (hidden : d.sound = true)
      (rest : MomentsAlike d l l') : MomentsAlike d (⟨m, .event (.register .st)⟩ :: l) l'
  | right (m : Machine) {l l' : List Moment} (hidden : d.sound = true)
      (rest : MomentsAlike d l l') : MomentsAlike d l (⟨m, .event (.register .st)⟩ :: l')

theorem MomentsAlike.append {d : Veil} {k k' l l' : List Moment} (h : MomentsAlike d k k')
    (hl : MomentsAlike d l l') : MomentsAlike d (k ++ l) (k' ++ l') := by
  induction h with
  | nil => exact hl
  | both t h _ ih => exact .both t h ih
  | left m hidden _ ih => exact .left m hidden ih
  | right m hidden _ ih => exact .right m hidden ih

/-- Two courses that go the same way. -/
structure Course.Alike {α : Type} (d : Veil) (c c' : Course α) : Prop where
  moments : MomentsAlike d c.moments c'.moments
  result : c.result = c'.result
  machine : c.machine.Alike d c'.machine

namespace Course

variable {α β : Type} {d : Veil}

theorem Alike.behind {c c' : Course α} (h : c.Alike d c') {l l' : List Moment}
    (hl : MomentsAlike d l l') : (c.behind l).Alike d (c'.behind l') :=
  ⟨hl.append h.moments, h.result, h.machine⟩

theorem Alike.andThen {c c' : Course α} {rest rest' : α → Machine → Course β}
    (h : c.Alike d c')
    (next : ∀ x m m', m.Alike d m' → (rest x m).Alike d (rest' x m')) :
    (c.andThen rest).Alike d (c'.andThen rest') := by
  obtain ⟨l, result, m⟩ := c
  obtain ⟨l', result', m'⟩ := c'
  obtain rfl : result = result' := h.result
  cases result with
  | error cause => exact ⟨h.moments, rfl, h.machine⟩
  | ok x => exact (next x m m' h.machine).behind h.moments

end Course

/-- Alike courses tell the same events, unless changes of ST are hidden. -/
theorem Course.Alike.events_eq {α : Type} {d : Veil} {c c' : Course α} (h : c.Alike d c')
    (shown : d.sound = false) : c.events = c'.events := by
  have moments := h.moments
  unfold Course.events
  generalize c.moments = l at moments ⊢
  generalize c'.moments = l' at moments ⊢
  induction moments with
  | nil => rfl
  | both t _ _ ih => simp only [List.filterMap_cons, ih]
  | left _ hidden => exact nomatch shown.symm.trans hidden
  | right _ hidden => exact nomatch shown.symm.trans hidden

namespace Action

variable {α β : Type} {d : Veil}

/-- From alike machines the actions go the same way. -/
def Alike (d : Veil) (a a' : Action α) : Prop :=
  ∀ m m', m.Alike d m' → (a.course m).Alike d (a'.course m')

theorem Alike.pure (x : α) : Alike d (Pure.pure x) (Pure.pure x) :=
  fun _ _ h => ⟨.nil, rfl, h⟩

theorem Alike.refuse (cause : Fault) :
    Alike d (System.refuse cause : Action α) (System.refuse cause) :=
  fun _ _ h => ⟨.nil, rfl, h⟩

theorem Alike.bind {a a' : Action α} {f f' : α → Action β} (ha : Alike d a a')
    (hf : ∀ x, Alike d (f x) (f' x)) : Alike d (a >>= f) (a' >>= f') := by
  intro m m' h
  rw [course_bind, course_bind]
  exact (ha m m' h).andThen fun x m m' h => hf x m m' h

/-- What follows a look may depend on the machine. -/
theorem Alike.look {f f' : Machine → Action α}
    (hf : ∀ m m', m.Alike d m' → Alike d (f m) (f' m')) :
    Alike d (System.look >>= f) (System.look >>= f') :=
  fun m m' h => hf m m' h m m' h

theorem Alike.change {f f' : Machine → Machine}
    (hf : ∀ m m', m.Alike d m' → (f m).Alike d (f' m')) :
    Alike d (System.change f) (System.change f') :=
  fun m m' h => ⟨.nil, rfl, hf m m' h⟩

theorem Alike.notify (e : Event) : Alike d (System.notify e) (System.notify e) :=
  fun _ _ h => ⟨.both _ h .nil, rfl, h⟩

theorem Alike.report (r : LogRecord) : Alike d (System.report r) (System.report r) :=
  fun _ _ h => ⟨.both _ h .nil, rfl, h⟩

end Action

end Chip8

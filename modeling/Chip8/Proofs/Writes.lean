import Chip8.Proofs.Course
import Chip8.System.Lifecycle

/-!
# The courses of the writers

What each writer does to the machine, and what it tells about it: first the write, then its
event. Stack operations that are refused do nothing at all.
-/

namespace Chip8

theorem toNat_byteOfInt (x : Int) : (UInt8.ofInt x).toNat = (x % 256).toNat := by
  simp only [UInt8.ofInt, UInt8.toNat_ofNat']
  omega

theorem byteOfInt_toNat (b : UInt8) : UInt8.ofInt (b.toNat : Int) = b := by
  have := b.toNat_lt
  apply UInt8.toNat_inj.mp
  rw [toNat_byteOfInt]
  omega

theorem toNat_wordOfInt (x : Int) : (UInt16.ofInt x).toNat = (x % 65536).toNat := by
  simp only [UInt16.ofInt, UInt16.toNat_ofNat']
  omega

theorem wordOfInt_toNat (w : UInt16) : UInt16.ofInt (w.toNat : Int) = w := by
  have := w.toNat_lt
  apply UInt16.toNat_inj.mp
  rw [toNat_wordOfInt]
  omega

theorem resolveIndex_register (k : VIndex) :
    resolveIndex .buffer registerCount ((k : Nat) : WholeNumber).value = .ok k := by
  have small : registerCount < 0x8000000000000000 := by simp only [registerCount]; omega
  exact resolveIndex_natCast .buffer small k

namespace System

theorem setVAt_of_resolve {index : WholeNumber} {k : VIndex}
    (hk : resolveIndex .buffer registerCount index.value = .ok k) (x : Int) :
    setVAt index x = setVAs k index x := by
  unfold setVAt
  rw [hk]

theorem setVAt_register (k : VIndex) (x : Int) : setVAt (k : Nat) x = setV k x :=
  setVAt_of_resolve (resolveIndex_register k) x

@[simp] theorem course_setVAs (k : VIndex) (index : WholeNumber) (x : Int) (m : Machine) :
    (setVAs k index x).course m =
      let m' := { m with v := m.v.set k (UInt8.ofInt x) k.isLt }
      ⟨[⟨m', .event (.register (.v index))⟩], .ok (), m'⟩ := rfl

@[simp] theorem course_setV (k : VIndex) (x : Int) (m : Machine) :
    (setV k x).course m =
      let m' := { m with v := m.v.set k (UInt8.ofInt x) k.isLt }
      ⟨[⟨m', .event (.register (.v (k : Nat)))⟩], .ok (), m'⟩ := rfl

@[simp] theorem course_setI (x : Int) (m : Machine) :
    (setI x).course m =
      let m' := { m with i := UInt16.ofInt x }
      ⟨[⟨m', .event (.register .i)⟩], .ok (), m'⟩ := rfl

@[simp] theorem course_setPc (x : Int) (m : Machine) :
    (setPc x).course m =
      let m' := { m with pc := UInt16.ofInt x }
      ⟨[⟨m', .event (.register .pc)⟩], .ok (), m'⟩ := rfl

@[simp] theorem course_setSp (x : Int) (m : Machine) :
    (setSp x).course m =
      let m' := { m with sp := UInt8.ofInt x }
      ⟨[⟨m', .event (.register .sp)⟩], .ok (), m'⟩ := rfl

@[simp] theorem course_setDt (x : Int) (m : Machine) :
    (setDt x).course m =
      let m' := { m with dt := UInt8.ofInt x }
      ⟨[⟨m', .event (.register .dt)⟩], .ok (), m'⟩ := rfl

@[simp] theorem course_setSt (x : Int) (m : Machine) :
    (setSt x).course m =
      let m' := { m with st := UInt8.ofInt x }
      ⟨[⟨m', .event (.register .st)⟩], .ok (), m'⟩ := rfl

theorem course_setBytesAs (offset length : WholeNumber) (bytes : List UInt8) (m : Machine) :
    (setBytesAs offset length bytes).course m =
      if 0 ≤ offset.value ∧ (bytes.length : Int) = length.value
          ∧ offset.value.toNat + bytes.length ≤ memorySize then
        let m' := { m with memory := m.memory.store offset.value.toNat bytes }
        ⟨[⟨m', .event (.memory offset length)⟩], .ok (), m'⟩
      else ⟨[], .error (.writeOutside length offset.value), m⟩ := by
  unfold setBytesAs
  split <;> rfl

/-- Bytes that fit are stored, and their place is told. -/
theorem course_setBytes {start : Nat} {bytes : List UInt8}
    (fits : start + bytes.length ≤ memorySize) (m : Machine) :
    (setBytes start bytes).course m =
      let m' := { m with memory := m.memory.store start bytes }
      ⟨[⟨m', .event (.memory start bytes.length)⟩], .ok (), m'⟩ := by
  rw [setBytes, course_setBytesAs, if_pos]
  · rfl
  · simp only [WholeNumber.value, true_and]
    omega

theorem course_setItems {start : Nat} {bytes : List UInt8}
    (fits : start + bytes.length ≤ memorySize) (m : Machine) :
    (setItems start (Data.numbers bytes)).course m =
      let m' := { m with memory := m.memory.store start bytes }
      ⟨[⟨m', .event (.memory start bytes.length)⟩], .ok (), m'⟩ := by
  simp only [setItems, bytesOf?_numbers]
  exact course_setBytes fits m

theorem writeBlock_of_within {address : Int} {bytes : List UInt8}
    (within : (cell address).val + bytes.length ≤ memorySize) :
    writeBlock address (Data.numbers bytes) = setItems (cell address).val (Data.numbers bytes) :=
  if_pos (by rwa [Data.numbers, List.length_map])

/-- Bytes that go beyond the end of memory are cut there. -/
theorem writeBlock_of_beyond {address : Int} {bytes : List UInt8}
    (beyond : memorySize < (cell address).val + bytes.length) :
    writeBlock address (Data.numbers bytes) = (do
      setItems (cell address).val (Data.numbers (bytes.take (memorySize - (cell address).val)))
      setItems 0 (Data.numbers (bytes.drop (memorySize - (cell address).val)))) := by
  simp only [writeBlock, Data.numbers, List.length_map, List.map_take, List.map_drop]
  rw [if_neg (Nat.not_le.mpr beyond)]

theorem length_take_head {address : Int} {bytes : List UInt8}
    (beyond : memorySize < (cell address).val + bytes.length) :
    (cell address).val + (bytes.take (memorySize - (cell address).val)).length = memorySize := by
  have inside := (cell address).isLt
  rw [List.length_take]
  omega

theorem course_pushStack_full {m : Machine} (full : stackSize ≤ m.sp.toNat) (address : Int) :
    (pushStack address).course m = ⟨[], .error (.stackOverflow m.sp), m⟩ := by
  simp only [pushStack, Action.course_bind, course_look, Course.andThen_ok, if_pos full,
    course_refuse, Course.behind_nil]

theorem course_pushStack {m : Machine} (room : m.sp.toNat < stackSize) (address : Int) :
    (pushStack address).course m =
      let slot := stackStart + m.sp.toNat
      let stored := { m with memory := m.memory.store slot (wordBytes (UInt16.ofInt address)) }
      let raised := { stored with sp := UInt8.ofInt ((m.sp.toNat : Int) + 2) }
      ⟨[⟨stored, .event (.memory slot 2)⟩, ⟨raised, .event (.register .sp)⟩], .ok (), raised⟩ := by
  have fits : (stackStart + m.sp.toNat) + (wordBytes (UInt16.ofInt address)).length
      ≤ memorySize := by
    simp only [wordBytes, List.length_cons, List.length_nil, stackStart, memorySize, stackSize,
      stackDepth] at room ⊢
    omega
  simp only [pushStack, Action.course_bind, course_look, Course.andThen_ok,
    if_neg (Nat.not_le.mpr room), course_setBytes fits, course_setSp]
  rfl

theorem course_popStack_empty {m : Machine} (empty : m.sp = 0) :
    popStack.course m = ⟨[], .error (.stackUnderflow m.sp), m⟩ := by
  simp only [popStack, Action.course_bind, course_look, Course.andThen_ok, if_pos empty,
    course_refuse, Course.behind_nil]

theorem course_popStack {m : Machine} (used : m.sp ≠ 0) :
    popStack.course m =
      let lowered := { m with sp := UInt8.ofInt ((m.sp.toNat : Int) - 2) }
      let slot := stackStart + lowered.sp.toNat
      let cleared := { lowered with memory := m.memory.store slot [0, 0] }
      ⟨[⟨lowered, .event (.register .sp)⟩, ⟨cleared, .event (.memory slot 2)⟩],
        .ok (lowered.readWord slot), cleared⟩ := by
  have fits (sp : UInt8) : (stackStart + sp.toNat) + [(0 : UInt8), 0].length ≤ memorySize := by
    have := sp.toNat_lt
    simp only [List.length_cons, List.length_nil, stackStart, memorySize]
    omega
  simp only [popStack, Action.course_bind, course_look, Course.andThen_ok, if_neg used,
    course_setSp, course_setBytes (fits _), Action.course_pure]
  rfl

end System

end Chip8

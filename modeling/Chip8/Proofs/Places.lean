import Chip8.Proofs.Decoding
import Chip8.Proofs.Flips
import Chip8.Proofs.Success

/-!
# Where operations write

A machine is a store of places: bytes, V registers, and what else it has. Each operation writes few
of them.

* `Place.read` is what a machine holds at a place.
* `Operation.Writes` lists the places that an operation may write. Where it writes memory they
  depend on I or on SP as they are before it.
* `leavesAt_perform`: all other places hold, at every moment of the operation and at its end, what
  they held before. `leavesAt_execute` is the same for opcodes, unknown ones included.
-/

namespace Chip8

/-- A place of a machine that can be written by itself. -/
inductive Place where
  | byte (a : Fin memorySize)
  | v (k : VIndex)
  | i
  | pc
  | sp
  | dt
  | st
  | key
  | cycle
  | generator

namespace Place

/-- What a place can hold. -/
abbrev Value : Place → Type
  | .byte _ | .v _ | .sp | .dt | .st => UInt8
  | .i | .pc => UInt16
  | .key => Option Key
  | .cycle => WholeNumber
  | .generator => Twister

/-- What a machine holds at a place. -/
def read : (p : Place) → Machine → p.Value
  | .byte a, m => m.memory.get a
  | .v k, m => m.v.get k
  | .i, m => m.i
  | .pc, m => m.pc
  | .sp, m => m.sp
  | .dt, m => m.dt
  | .st, m => m.st
  | .key, m => m.key
  | .cycle, m => m.cycle
  | .generator, m => m.generator

variable {p : Place}

theorem read_set_v {k : VIndex} (h : p ≠ .v k) (m : Machine) (b : UInt8) :
    p.read { m with v := m.v.set k b k.isLt } = p.read m := by
  cases p with
  | v j =>
    have hne : k.val ≠ j.val := fun e => h (congrArg v (Fin.ext e.symm))
    exact Vector.getElem_set_ne k.isLt j.isLt hne
  | _ => rfl

theorem read_set_i (h : p ≠ .i) (m : Machine) (i : UInt16) :
    p.read { m with i := i } = p.read m := by
  cases p with
  | i => exact absurd rfl h
  | _ => rfl

theorem read_set_pc (h : p ≠ .pc) (m : Machine) (pc : UInt16) :
    p.read { m with pc := pc } = p.read m := by
  cases p with
  | pc => exact absurd rfl h
  | _ => rfl

theorem read_set_sp (h : p ≠ .sp) (m : Machine) (sp : UInt8) :
    p.read { m with sp := sp } = p.read m := by
  cases p with
  | sp => exact absurd rfl h
  | _ => rfl

theorem read_set_dt (h : p ≠ .dt) (m : Machine) (dt : UInt8) :
    p.read { m with dt := dt } = p.read m := by
  cases p with
  | dt => exact absurd rfl h
  | _ => rfl

theorem read_set_st (h : p ≠ .st) (m : Machine) (st : UInt8) :
    p.read { m with st := st } = p.read m := by
  cases p with
  | st => exact absurd rfl h
  | _ => rfl

theorem read_set_generator (h : p ≠ .generator) (m : Machine) (g : Twister) :
    p.read { m with generator := g } = p.read m := by
  cases p with
  | generator => exact absurd rfl h
  | _ => rfl

/-- New memory shows only at bytes that differ. -/
theorem read_set_memory {m : Machine} {memory : Memory}
    (h : ∀ a : Fin memorySize, p = .byte a → memory.get a = m.memory.get a) :
    p.read { m with memory := memory } = p.read m := by
  cases p with
  | byte a => exact h a rfl
  | _ => rfl

end Place

/-- The places that an operation may write on a machine. -/
def Operation.Writes (op : Operation) (o : Operands) (m : Machine) : Place → Prop
  | .byte a =>
    match op with
    | .clearScreen | .draw => displayStart ≤ a.val
    | .call => ∃ k < 2, a.val = stackStart + m.sp.toNat + k
    | .return => ∃ k < 2, a.val = stackStart + (m.sp - 2).toNat + k
    | .storeDecimal => ∃ k < 3, a = cell (m.i.toNat + k : Nat)
    | .dumpRegisters => ∃ k ≤ o.x.val, a = cell (m.i.toNat + k : Nat)
    | _ => False
  | .v k =>
    match op with
    | .setByte | .addByte | .copy | .bitOr | .bitAnd | .bitXor | .random | .readDelay
    | .awaitKey => k = o.x
    | .add | .subtract | .shiftRight | .subtractFrom | .shiftLeft => k = o.x ∨ k = flagRegister
    | .draw => k = flagRegister
    | .loadRegisters => k ≤ o.x
    | _ => False
  | .i => op = .setIndex ∨ op = .addIndex ∨ op = .glyph
  | .sp => op = .call ∨ op = .return
  | .dt => op = .setDelay
  | .st => op = .setSound
  | .generator => op = .random
  | .pc | .key | .cycle => False

namespace Action

variable {α β γ : Type} {F : Machine → γ} {m : Machine}

/-- From a machine on, no moment of the action nor its end changes a view. -/
def LeavesAt (F : Machine → γ) (m : Machine) (a : Action α) : Prop :=
  (a.course m).Ends (fun m' => F m' = F m) (fun _ m' => F m' = F m)

theorem LeavesAt.look {f : Machine → Action α} (h : (f m).LeavesAt F m) :
    (System.look >>= f).LeavesAt F m := h

theorem LeavesAt.bind {a : Action α} {f : α → Action β} (ha : a.LeavesAt F m)
    (hf : ∀ x, (f x).Leaves F) : (a >>= f).LeavesAt F m := by
  unfold LeavesAt
  rw [course_bind]
  refine Course.Ends.andThen ha fun x m' (hm : F m' = F m) => ?_
  rw [← hm]
  exact hf x m'

end Action

/-- The places that an instruction may write; an opcode without meaning writes none. -/
def Decoded.Writes (d : Decoded) (m : Machine) (p : Place) : Prop :=
  ∃ op, d.operation? = some op ∧ op.Writes d.operands m p

namespace System

open Chip8.Action

variable {p : Place}

theorem leaves_setV_of_ne {k : VIndex} (h : p ≠ .v k) (x : Int) : (setV k x).Leaves p.read :=
  .bind (.change fun m => Place.read_set_v h m _) fun _ => .notify _

theorem byteOfInt_sub_two (b : UInt8) : UInt8.ofInt ((b.toNat : Int) - 2) = b - 2 := by
  apply UInt8.toNat_inj.mp
  rw [toNat_byteOfInt, UInt8.toNat_sub]
  have := b.toNat_lt
  simp only [UInt8.reduceToNat]
  omega

theorem leaves_setBytesAs_of_outside {offset length : WholeNumber} {bytes : List UInt8}
    (h : ∀ a : Fin memorySize, offset.value.toNat ≤ a.val →
      a.val < offset.value.toNat + bytes.length → p ≠ .byte a) :
    (setBytesAs offset length bytes).Leaves p.read := by
  unfold setBytesAs
  split
  · refine .bind (.change fun m => Place.read_set_memory fun a ha => ?_) fun _ => .notify _
    have outside : ¬ (offset.value.toNat ≤ a.val ∧ a.val - offset.value.toNat < bytes.length) :=
      fun ⟨h₁, h₂⟩ => h a h₁ (by omega) ha
    exact (Memory.getElem_store _ _ _ a.isLt).trans (dif_neg outside)
  · exact .refuse _

/-- Places behind an address, around the end of memory. -/
theorem val_cell_add (address : Int) (k : Nat) :
    (cell (address + k)).val = ((cell address).val + k) % memorySize := by
  simp only [cell, memorySize]
  omega

/-- A block takes the bytes from its address on, around the end of memory. -/
theorem leaves_writeBlock_of_outside {address : Int} {bytes : List UInt8}
    (h : ∀ k < bytes.length, p ≠ .byte (cell (address + (k : Nat)))) :
    (writeBlock address (Data.numbers bytes)).Leaves p.read := by
  have hstart := (cell address).isLt
  -- Bytes of the block from the `skipped`-th on go to places from `start` on.
  have part (skipped : Nat) {start : Nat} {part : List UInt8}
      (fits : skipped + part.length ≤ bytes.length)
      (place : ((cell address).val + skipped) % memorySize = start) :
      (setItems start (Data.numbers part)).Leaves p.read := by
    simp only [setItems, bytesOf?_numbers, setBytes]
    refine leaves_setBytesAs_of_outside fun a h₁ h₂ => ?_
    simp only [WholeNumber.value, Int.toNat_natCast] at h₁ h₂
    have ha : cell (address + (skipped + (a.val - start) : Nat)) = a := by
      have := a.isLt
      apply Fin.ext
      rw [val_cell_add]
      simp only [memorySize] at *
      omega
    exact ha ▸ h _ (by omega)
  by_cases within : (cell address).val + bytes.length ≤ memorySize
  · rw [writeBlock_of_within within]
    refine part 0 (by omega) ?_
    rw [Nat.add_zero, Nat.mod_eq_of_lt hstart]
  · rw [writeBlock_of_beyond (Nat.not_le.mp within)]
    refine .bind (part 0 ?_ ?_) fun _ => part (memorySize - (cell address).val) ?_ ?_
    · rw [List.length_take]
      omega
    · rw [Nat.add_zero, Nat.mod_eq_of_lt hstart]
    · rw [List.length_drop]
      omega
    · rw [Nat.add_sub_of_le hstart.le, Nat.mod_self]

theorem leavesAt_regDump {m : Machine} {x : VIndex}
    (h : ∀ k ≤ x.val, p ≠ .byte (cell (m.i.toNat + k : Nat))) :
    (regDump (x : Nat)).LeavesAt p.read m := by
  refine .look (leaves_writeBlock_of_outside (fun k hk => h k ?_) m)
  rw [cutAt, List.length_take, if_pos (by omega)] at hk
  omega

theorem leaves_loadFrom_of_outside {bytes : List UInt8} :
    ∀ (index : Nat), index + bytes.length ≤ registerCount →
      (∀ k : VIndex, k.val < index + bytes.length → p ≠ .v k) →
      (loadFrom index bytes).Leaves p.read := by
  induction bytes with
  | nil => exact fun _ _ _ => .pure _
  | cons b rest ih =>
    intro index fits h
    rw [List.length_cons] at fits h
    have first : (setVAt index b.toNat).Leaves p.read := by
      have hk : setVAt index b.toNat = setV ⟨index, by omega⟩ b.toNat :=
        setVAt_register ⟨index, by omega⟩ b.toNat
      rw [hk]
      exact leaves_setV_of_ne (h _ (by dsimp only; omega)) _
    have next : index + 1 + rest.length = index + (rest.length + 1) := by omega
    exact .bind first fun _ => ih (index + 1) (next ▸ fits) (next ▸ h)

theorem leaves_regLoad_of_above {x : VIndex} (h : ∀ k : VIndex, k ≤ x → p ≠ .v k) :
    (regLoad (x : Nat)).Leaves p.read := by
  have hx := x.isLt
  refine .bind .look fun m => ?_
  have hlen : (m.readBlock m.i.toNat (min ((x : Nat) + 1 : Int).toNat
      (registerCount + 1))).length = x + 1 := by
    simp only [Machine.readBlock, List.length_map, List.length_range, registerCount] at hx ⊢
    omega
  refine leaves_loadFrom_of_outside 0 (by omega) fun k hk => h k ?_
  rw [Fin.le_def]
  omega

theorem leaves_clearDisplay_of_outside
    (h : ∀ a : Fin memorySize, displayStart ≤ a.val → p ≠ .byte a) :
    clearDisplay.Leaves p.read := by
  have fits : displayStart + displaySize ≤ memorySize := by decide
  have fill : (fillBytes displayStart 0 displaySize).Leaves p.read := by
    rw [fillBytes_of_fits fits]
    exact leaves_setBytesAs_of_outside fun a ha _ => h a ha
  exact .bind fill fun _ => .notify _

theorem leaves_draw_of_outside (h : ∀ a : Fin memorySize, displayStart ≤ a.val → p ≠ .byte a)
    (flag : p ≠ .v flagRegister) (x y : VIndex) (n : Nat) : (draw x y n).Leaves p.read := by
  have row (m : Machine) (x : Nat) (y : Fin displayHeight) (row : UInt8) :
      p.read (m.flipRow x y row).1 = p.read m := by
    rw [m.flipRow_eq x y row]
    refine Place.read_set_memory fun a ha => Machine.getElem_flipRow m x y row a.isLt (Or.inl ?_)
    have before : a.val < displayStart := Nat.lt_of_not_le fun hle => h a hle ha
    omega
  exact .bind .look fun _ => .bind (leaves_drawRows_of_row row _ _ _ _ _) fun _ =>
    .bind (leaves_setV_of_ne flag _) fun _ => .notify _

theorem leaves_random_of_ne (h : p ≠ .generator) : random.Leaves p.read :=
  .bind .look fun _ => .bind (.change fun m => Place.read_set_generator h m _) fun _ => .pure _

/-- A push writes the slot at SP, and SP. -/
theorem leavesAt_pushStack {m : Machine} (sp : p ≠ .sp)
    (slot : ∀ a : Fin memorySize, (∃ k < 2, a.val = stackStart + m.sp.toNat + k) → p ≠ .byte a)
    (address : Int) : (pushStack address).LeavesAt p.read m := by
  refine .look ?_
  split
  · exact Leaves.refuse _ m
  · refine .bind (leaves_setBytesAs_of_outside (fun a h₁ h₂ => slot a ?_) m) fun _ =>
      leaves_setSp (Place.read_set_sp sp) _
    simp only [WholeNumber.value, Int.toNat_natCast, wordBytes, List.length_cons,
      List.length_nil] at h₁ h₂
    exact ⟨a.val - (stackStart + m.sp.toNat), by omega, by omega⟩

/-- A pop writes the slot below SP, and SP. -/
theorem leavesAt_popStack {m : Machine} (sp : p ≠ .sp)
    (slot : ∀ a : Fin memorySize, (∃ k < 2, a.val = stackStart + (m.sp - 2).toNat + k) →
      p ≠ .byte a) : popStack.LeavesAt p.read m := by
  unfold LeavesAt
  by_cases empty : m.sp = 0
  · rw [course_popStack_empty empty]
    exact .of_error (by simp) rfl
  · let lowered := { m with sp := m.sp - 2 }
    have hsp : p.read lowered = p.read m := Place.read_set_sp sp m _
    have hslot : p.read { lowered with
        memory := m.memory.store (stackStart + (m.sp - 2).toNat) [0, 0] } = p.read lowered := by
      refine Place.read_set_memory fun a ha => ?_
      have outside : ¬ (stackStart + (m.sp - 2).toNat ≤ a.val ∧
          a.val - (stackStart + (m.sp - 2).toNat) < [(0 : UInt8), 0].length) := by
        rw [List.length_cons, List.length_cons, List.length_nil]
        exact fun ⟨h₁, h₂⟩ => slot a ⟨_, h₂, by omega⟩ ha
      exact (Memory.getElem_store _ _ _ a.isLt).trans (dif_neg outside)
    have cleared := hslot.trans hsp
    rw [course_popStack empty, byteOfInt_sub_two]
    exact .of_ok (List.forall_mem_cons.mpr ⟨hsp, List.forall_mem_singleton.mpr cleared⟩) cleared

/-- **An operation writes only its own places.** -/
theorem leavesAt_perform {op : Operation} {o : Operands} {m : Machine}
    (h : ¬ op.Writes o m p) : (perform op o).LeavesAt p.read m := by
  have ne {q : Place} (hq : op.Writes o m q) : p ≠ q := fun e => h (e ▸ hq)
  have value {k : VIndex} (hk : p ≠ .v k) (x : Int) :
      (do setV k x; return none : Action (Option Nat)).Leaves p.read :=
    .bind (leaves_setV_of_ne hk x) fun _ => .pure _
  refine .look ?_
  cases op with
  | clearScreen =>
    exact .bind (leaves_clearDisplay_of_outside (fun a ha => ne ha) m) fun _ => .pure _
  | «return» =>
    exact .bind (leavesAt_popStack (ne (Or.inr rfl)) fun a ha => ne ha) fun _ => .pure _
  | call =>
    exact .bind (leavesAt_pushStack (ne (Or.inl rfl)) (fun a ha => ne ha) _) fun _ => .pure _
  | routine | jump | jumpFrom => exact Leaves.pure _ m
  | skipIfByte | skipUnlessByte | skipIfEqual | skipUnlessEqual | skipIfKey | skipUnlessKey =>
    exact Leaves.bind .look (fun _ => .pure _) m
  | setByte | addByte | copy | bitOr | bitAnd | bitXor | readDelay => exact value (ne rfl) _ m
  | add | subtract | subtractFrom =>
    exact .bind (leaves_setV_of_ne (ne (Or.inr rfl)) _ m) fun _ => value (ne (Or.inl rfl)) _
  | shiftRight | shiftLeft =>
    exact .bind (leaves_setV_of_ne (ne (Or.inr rfl)) _ m) fun _ =>
      .bind .look fun _ => value (ne (Or.inl rfl)) _
  | random => exact .bind (leaves_random_of_ne (ne rfl) m) fun _ => value (ne rfl) _
  | draw =>
    exact .bind (leaves_draw_of_outside (fun a ha => ne ha) (ne rfl) _ _ _ m) fun _ => .pure _
  | awaitKey =>
    cases m.key with
    | none => exact Leaves.pure _ m
    | some k => exact value (ne rfl) _ m
  | setDelay => exact .bind (leaves_setDt (Place.read_set_dt (ne rfl)) _ m) fun _ => .pure _
  | setSound => exact .bind (leaves_setSt (Place.read_set_st (ne rfl)) _ m) fun _ => .pure _
  | setIndex =>
    exact .bind (leaves_setI (Place.read_set_i (ne (Or.inl rfl))) _ m) fun _ => .pure _
  | addIndex =>
    exact .bind (leaves_setI (Place.read_set_i (ne (Or.inr (Or.inl rfl)))) _ m) fun _ => .pure _
  | glyph =>
    exact .bind (leaves_setI (Place.read_set_i (ne (Or.inr (Or.inr rfl)))) _ m) fun _ => .pure _
  | storeDecimal =>
    have digits : (writeBlock m.i.toNat (decimalDigits (m.v.get o.x))).Leaves p.read := by
      rw [decimalDigits_eq]
      exact leaves_writeBlock_of_outside fun k hk => ne ⟨k, hk, rfl⟩
    exact .bind (digits m) fun _ => .pure _
  | dumpRegisters =>
    exact .bind (leavesAt_regDump fun k hk => ne ⟨k, hk, rfl⟩) fun _ => .pure _
  | loadRegisters =>
    exact .bind (leaves_regLoad_of_above (fun k hk => ne hk) m) fun _ => .pure _

theorem leavesAt_execute {d : Decoded} {m : Machine} (h : ¬ d.Writes m p) :
    (execute d).LeavesAt p.read m := by
  unfold execute
  cases hrow : d.row? with
  | none => exact Leaves.bind .look (fun _ => .bind (.report _) fun _ => .pure _) m
  | some e =>
    have hop : d.operation? = some e.operation := congrArg (Option.map _) hrow
    exact leavesAt_perform fun hw => h ⟨_, hop, hw⟩

end System

end Chip8

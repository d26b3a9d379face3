import Chip8.Proofs.Parts

/-!
# What never refuses

All operations but calls and returns come to their end on every machine: no address that
they compute is out of range, since blocks wrap at the end of memory, and no register is missing.

* `Succeeds`: the action's course ends with a result, whatever the machine.
* `succeeds_perform`: so do all operations but `call` and `return`; the latter two do so unless
  the stack is full or empty (`Writes`).
-/

namespace Chip8

namespace Action

variable {α β : Type}

/-- On no machine does the action end with a refusal. -/
structure Succeeds (a : Action α) : Prop where
  ok : ∀ m, ∃ l x m', a.course m = ⟨l, .ok x, m'⟩

theorem Succeeds.pure (x : α) : (Pure.pure x : Action α).Succeeds :=
  ⟨fun m => ⟨[], x, m, course_pure x m⟩⟩

theorem Succeeds.look : System.look.Succeeds := ⟨fun m => ⟨[], m, m, rfl⟩⟩

theorem Succeeds.change (f : Machine → Machine) : (System.change f).Succeeds :=
  ⟨fun m => ⟨[], (), f m, rfl⟩⟩

theorem Succeeds.notify (e : Event) : (System.notify e).Succeeds :=
  ⟨fun m => ⟨[⟨m, .event e⟩], (), m, rfl⟩⟩

theorem Succeeds.report (r : LogRecord) : (System.report r).Succeeds :=
  ⟨fun m => ⟨[⟨m, .record r⟩], (), m, rfl⟩⟩

theorem Succeeds.bind {a : Action α} {f : α → Action β} (ha : a.Succeeds)
    (hf : ∀ x, (f x).Succeeds) : (a >>= f).Succeeds := by
  refine ⟨fun m => ?_⟩
  obtain ⟨l, x, m₁, h₁⟩ := ha.ok m
  obtain ⟨l', y, m₂, h₂⟩ := (hf x).ok m₁
  exact ⟨l ++ l', y, m₂, by rw [course_bind, h₁, Course.andThen_ok, h₂, Course.behind_mk]⟩

end Action

namespace System

open Chip8.Action

theorem succeeds_setVAs (k : VIndex) (index : WholeNumber) (x : Int) :
    (setVAs k index x).Succeeds := .bind (.change _) fun _ => .notify _

theorem succeeds_setV (k : VIndex) (x : Int) : (setV k x).Succeeds := succeeds_setVAs k _ x

theorem succeeds_setI (x : Int) : (setI x).Succeeds := .bind (.change _) fun _ => .notify _

theorem succeeds_setDt (x : Int) : (setDt x).Succeeds := .bind (.change _) fun _ => .notify _

theorem succeeds_setSt (x : Int) : (setSt x).Succeeds := .bind (.change _) fun _ => .notify _

/-- Bytes that memory can hold are written at any address. -/
theorem succeeds_writeBlock (address : Int) {bytes : List UInt8}
    (fits : bytes.length ≤ memorySize) :
    (writeBlock address (Data.numbers bytes)).Succeeds := by
  have items {start : Nat} {bytes : List UInt8} (fits : start + bytes.length ≤ memorySize) :
      (setItems start (Data.numbers bytes)).Succeeds :=
    ⟨fun m => ⟨_, _, _, course_setItems fits m⟩⟩
  by_cases within : (cell address).val + bytes.length ≤ memorySize
  · rw [writeBlock_of_within within]
    exact items within
  · have beyond := Nat.not_le.mp within
    have inside := (cell address).isLt
    have tail : 0 + (bytes.drop (memorySize - (cell address).val)).length ≤ memorySize := by
      rw [List.length_drop]
      omega
    rw [writeBlock_of_beyond beyond]
    exact .bind (items (Nat.le_of_eq (length_take_head beyond))) fun _ => items tail

theorem decimalDigits_eq (b : UInt8) : decimalDigits b =
    Data.numbers [.ofNat (b.toNat / 100), .ofNat (b.toNat / 10 % 10), .ofNat (b.toNat % 10)] := by
  have hb := b.toNat_lt
  have small {n : Nat} (h : n < 256) : (UInt8.ofNat n).toNat = n := by
    rw [UInt8.toNat_ofNat', Nat.mod_eq_of_lt h]
  simp only [decimalDigits, Data.numbers, List.map_cons, List.map_nil]
  rw [small (by omega), small (by omega), small (by omega)]

theorem succeeds_regDump (n : Nat) : (regDump n).Succeeds := by
  refine .bind .look fun m => succeeds_writeBlock _ ?_
  rw [cutAt, List.length_take, Vector.length_toList]
  simp only [registerCount, memorySize]
  omega

theorem succeeds_loadFrom {bytes : List UInt8} :
    ∀ {index : Nat}, index + bytes.length ≤ registerCount → (loadFrom index bytes).Succeeds := by
  induction bytes with
  | nil => exact fun _ => .pure _
  | cons b rest ih =>
    intro index fits
    have hcons : (b :: rest).length = rest.length + 1 := List.length_cons
    have next : index + 1 + rest.length ≤ registerCount := by omega
    let k : VIndex := ⟨index, by omega⟩
    have first : (setVAt index b.toNat).Succeeds := by
      have hk : setVAt index b.toNat = setV k b.toNat := setVAt_register k b.toNat
      rw [hk]
      exact succeeds_setV k _
    exact .bind first fun _ => ih next

theorem succeeds_regLoad (x : VIndex) : (regLoad (x : Nat)).Succeeds := by
  refine .bind .look fun m => ?_
  have hx := x.isLt
  have fits : 0 + (m.readBlock m.i.toNat (min ((x : Nat) + 1 : Int).toNat
      (registerCount + 1))).length ≤ registerCount := by
    simp only [Machine.readBlock, List.length_map, List.length_range, registerCount] at hx ⊢
    omega
  exact succeeds_loadFrom fits

/-- A count that memory can hold is not refused before its place is looked at. -/
theorem fillBytes_of_count {offset count : WholeNumber} (nonneg : 0 ≤ count.value)
    (small : count.value ≤ memorySize) (b : UInt8) : fillBytes offset b count =
      setBytesAs offset count (List.replicate count.value.toNat b) := by
  have word : fitsWord count.value = true := by
    simp only [fitsWord, memorySize, Bool.and_eq_true, decide_eq_true_eq] at small ⊢
    omega
  have room : ¬ ((roomSize : Int) ≤ count.value) := by
    simp only [roomSize, memorySize] at small ⊢
    omega
  simp only [fillBytes, word, room, small, Bool.not_true, if_true, if_false, Bool.false_eq_true]

/-- A fill that fits writes its bytes. -/
theorem fillBytes_of_fits {start length : Nat} (fits : start + length ≤ memorySize) (b : UInt8) :
    fillBytes start b length = setBytesAs start length (List.replicate length b) := by
  have small : length ≤ memorySize := by omega
  have nonneg : 0 ≤ (length : WholeNumber).value := Int.natCast_nonneg length
  exact fillBytes_of_count nonneg (Int.ofNat_le.mpr small) b

theorem succeeds_fillBytes {start length : Nat} (fits : start + length ≤ memorySize) (b : UInt8) :
    (fillBytes start b length).Succeeds := by
  have hlen : (List.replicate length b).length = length := List.length_replicate
  rw [fillBytes_of_fits fits]
  refine ⟨fun m => ⟨_, _, _, (course_setBytesAs _ _ _ m).trans (if_pos ?_)⟩⟩
  simp only [WholeNumber.value, hlen, Int.toNat_natCast, true_and]
  omega

theorem succeeds_clearDisplay : clearDisplay.Succeeds := by
  have fits : displayStart + displaySize ≤ memorySize := by decide
  exact .bind (succeeds_fillBytes fits 0) fun _ => .notify _

theorem succeeds_drawRows (x y rows : Nat) :
    ∀ (r : Nat) (hit : Bool), (drawRows x y r rows hit).Succeeds := by
  induction rows with
  | zero => exact fun _ _ => .pure _
  | succ rows ih =>
    intro r hit
    exact .bind .look fun m => .bind (.change _) fun _ => .bind (.notify _) fun _ => ih _ _

theorem succeeds_draw (x y : VIndex) (n : Nat) : (draw x y n).Succeeds :=
  .bind .look fun _ => .bind (succeeds_drawRows _ _ _ _ _) fun _ =>
    .bind (succeeds_setV _ _) fun _ => .notify _

theorem succeeds_random : random.Succeeds :=
  .bind .look fun _ => .bind (.change _) fun _ => .pure _

theorem succeeds_storeDecimal (address : Int) (b : UInt8) :
    (writeBlock address (decimalDigits b)).Succeeds := by
  have fits : 3 ≤ memorySize := by decide
  rw [decimalDigits_eq]
  exact succeeds_writeBlock address fits

theorem writers_succeed : OfWriters fun _ a => a.Succeeds where
  pure := .pure
  look := .look
  bind := .bind
  report := .report
  setV := succeeds_setV
  setI := succeeds_setI
  setDt := succeeds_setDt
  setSt := succeeds_setSt
  clearDisplay := succeeds_clearDisplay
  random := succeeds_random
  draw := succeeds_draw
  storeDecimal := succeeds_storeDecimal
  regDump := succeeds_regDump
  regLoad := succeeds_regLoad

/-- No operation but a call or a return is ever refused. -/
theorem succeeds_perform {op : Operation} (call : op ≠ .call) (ret : op ≠ .return)
    (o : Operands) : (perform op o).Succeeds :=
  writers_succeed.perform (fun h => absurd h call) (fun h => absurd h ret) o

end System

end Chip8

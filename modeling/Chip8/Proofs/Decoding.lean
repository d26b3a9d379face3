import Mathlib.Data.Nat.Bitwise
import Chip8.Opcode.Execute

/-!
# Which opcode means what

The table read as arithmetic on the digits of an opcode.

* Each mask keeps the first digit and some of the last ones (`matches_iff`).
* `Operation.Encoded` says of each operation which opcodes it has; `operation_eq_some_iff` is that
  the first match in the table is the operation that the opcode encodes. So an opcode that encodes
  an operation executes it (`execute_of_encoded`).
-/

namespace Chip8

/-- A mask keeps the first of four hexadecimal digits and the last `k` bits. -/
theorem and_head_tail {n k : Nat} (hn : n < 65536) (hk : k ≤ 12) :
    n &&& (0xF000 ||| (2 ^ k - 1)) = n / 4096 * 4096 + n % 2 ^ k := by
  have head : n &&& 0xF000 = 2 ^ 12 * (n / 4096) := by
    apply Nat.eq_of_testBit_eq
    intro i
    have hm : (0xF000 : Nat) = 2 ^ 12 * (2 ^ 4 - 1) := by decide
    have hd : n / 4096 = n / 2 ^ 12 := rfl
    rw [Nat.testBit_and, hm, hd, Nat.testBit_two_pow_mul, Nat.testBit_two_pow_mul,
      Nat.testBit_two_pow_sub_one, Nat.testBit_div_two_pow]
    by_cases low : 12 ≤ i
    · by_cases high : i < 16
      · have hs : i - 12 < 4 := by omega
        simp [low, hs]
      · have big : 2 ^ 16 ≤ 2 ^ i := Nat.pow_le_pow_right (by omega) (by omega)
        have hz : n.testBit i = false := Nat.testBit_lt_two_pow (Nat.lt_of_lt_of_le hn big)
        simp [hz, low]
    · simp [low]
  have tail : n % 2 ^ k < 2 ^ 12 :=
    Nat.lt_of_lt_of_le (Nat.mod_lt n (Nat.two_pow_pos k)) (Nat.pow_le_pow_right (by omega) hk)
  rw [Nat.and_or_distrib_left, head, Nat.and_two_pow_sub_one_eq_mod,
    ← Nat.two_pow_add_eq_or_of_lt tail, Nat.mul_comm]

theorem matches_iff {e : TableEntry} {k : Nat} (hk : k ≤ 12)
    (mask : e.mask.toNat = 0xF000 ||| (2 ^ k - 1)) (w : UInt16) :
    e.matches w ↔ w.toNat / 4096 * 4096 + w.toNat % 2 ^ k = e.value.toNat := by
  rw [TableEntry.matches, beq_iff_eq, ← UInt16.toNat_inj, UInt16.toNat_and, mask,
    and_head_tail w.toNat_lt hk]

/-- The opcodes of an operation, by first digit and last digits. -/
def Operation.Encoded (n : Nat) : Operation → Prop
  | .clearScreen => n = 0x00E0
  | .return => n = 0x00EE
  | .routine => n / 4096 = 0x0 ∧ n ≠ 0x00E0 ∧ n ≠ 0x00EE
  | .jump => n / 4096 = 0x1
  | .call => n / 4096 = 0x2
  | .skipIfByte => n / 4096 = 0x3
  | .skipUnlessByte => n / 4096 = 0x4
  | .skipIfEqual => n / 4096 = 0x5 ∧ n % 16 = 0x0
  | .setByte => n / 4096 = 0x6
  | .addByte => n / 4096 = 0x7
  | .copy => n / 4096 = 0x8 ∧ n % 16 = 0x0
  | .bitOr => n / 4096 = 0x8 ∧ n % 16 = 0x1
  | .bitAnd => n / 4096 = 0x8 ∧ n % 16 = 0x2
  | .bitXor => n / 4096 = 0x8 ∧ n % 16 = 0x3
  | .add => n / 4096 = 0x8 ∧ n % 16 = 0x4
  | .subtract => n / 4096 = 0x8 ∧ n % 16 = 0x5
  | .shiftRight => n / 4096 = 0x8 ∧ n % 16 = 0x6
  | .subtractFrom => n / 4096 = 0x8 ∧ n % 16 = 0x7
  | .shiftLeft => n / 4096 = 0x8 ∧ n % 16 = 0xE
  | .skipUnlessEqual => n / 4096 = 0x9 ∧ n % 16 = 0x0
  | .setIndex => n / 4096 = 0xA
  | .jumpFrom => n / 4096 = 0xB
  | .random => n / 4096 = 0xC
  | .draw => n / 4096 = 0xD
  | .skipIfKey => n / 4096 = 0xE ∧ n % 256 = 0x9E
  | .skipUnlessKey => n / 4096 = 0xE ∧ n % 256 = 0xA1
  | .readDelay => n / 4096 = 0xF ∧ n % 256 = 0x07
  | .awaitKey => n / 4096 = 0xF ∧ n % 256 = 0x0A
  | .setDelay => n / 4096 = 0xF ∧ n % 256 = 0x15
  | .setSound => n / 4096 = 0xF ∧ n % 256 = 0x18
  | .addIndex => n / 4096 = 0xF ∧ n % 256 = 0x1E
  | .glyph => n / 4096 = 0xF ∧ n % 256 = 0x29
  | .storeDecimal => n / 4096 = 0xF ∧ n % 256 = 0x33
  | .dumpRegisters => n / 4096 = 0xF ∧ n % 256 = 0x55
  | .loadRegisters => n / 4096 = 0xF ∧ n % 256 = 0x65

/-- Two entries that match one opcode agree on the bits that both compare. -/
theorem compatible_of_matches {a b : TableEntry} {w : UInt16} (ha : a.matches w)
    (hb : b.matches w) : a.value &&& b.mask = b.value &&& a.mask := by
  rw [TableEntry.matches, beq_iff_eq] at ha hb
  rw [← ha, ← hb, UInt16.and_assoc, UInt16.and_assoc, UInt16.and_comm a.mask]

/-- Past the first two entries no two match one opcode. -/
theorem operation_eq_of_matches {a b : TableEntry} (ha : a ∈ instructionTable.drop 2)
    (hb : b ∈ instructionTable.drop 2) {w : UInt16} (hwa : a.matches w) (hwb : b.matches w) :
    a.operation = b.operation := by
  have apart : ∀ a ∈ instructionTable.drop 2, ∀ b ∈ instructionTable.drop 2,
      a.value &&& b.mask = b.value &&& a.mask → a.operation = b.operation := by decide +kernel
  exact apart a ha b hb (compatible_of_matches hwa hwb)

theorem matches_iff_encoded {w : UInt16} (h₁ : w.toNat ≠ 0x00E0) (h₂ : w.toNat ≠ 0x00EE) :
    ∀ e ∈ instructionTable.drop 2, (e.matches w ↔ e.operation.Encoded w.toNat) := by
  have hw := w.toNat_lt
  simp only [instructionTable, List.drop_succ_cons, List.drop_zero, List.forall_mem_cons]
  and_intros
  all_goals
    first
    | rw [matches_iff (k := 0) (by omega) rfl]
    | rw [matches_iff (k := 4) (by omega) rfl]
    | rw [matches_iff (k := 8) (by omega) rfl]
    | exact fun _ he => nomatch he
  all_goals
    simp only [Operation.Encoded, UInt16.reduceToNat, Nat.reducePow]
    omega

/-- The operation of an opcode. -/
def Decoded.operation? (d : Decoded) : Option Operation := d.row?.map (·.operation)

/-- **The first match in the table is the operation that the opcode encodes.** -/
theorem operation_eq_some_iff (w : UInt16) (op : Operation) :
    (Decoded.ofOpcode w).operation? = some op ↔ op.Encoded w.toNat := by
  by_cases h₁ : w.toNat = 0x00E0
  · obtain rfl : w = 0x00E0 := UInt16.toNat_inj.mp h₁
    have first : (Decoded.ofOpcode 0x00E0).operation? = some .clearScreen := rfl
    rw [first]
    cases op <;> simp [Operation.Encoded]
  by_cases h₂ : w.toNat = 0x00EE
  · obtain rfl : w = 0x00EE := UInt16.toNat_inj.mp h₂
    have second : (Decoded.ofOpcode 0x00EE).operation? = some .return := rfl
    rw [second]
    cases op <;> simp [Operation.Encoded]
  have skipped : findRow? instructionTable w = findRow? (instructionTable.drop 2) w := by
    have full {v : UInt16} (p : String) (o : Operation) (hv : w.toNat ≠ v.toNat) :
        TableEntry.matches ⟨o, p, 0xFFFF, v⟩ w = false := by
      rw [Bool.eq_false_iff, ne_eq, matches_iff (k := 12) (by omega) rfl]
      simp only
      omega
    rw [findRow?, instructionTable, List.find?_cons_of_neg, List.find?_cons_of_neg]
    · rfl
    · rw [Bool.not_eq_true]
      exact full (v := 0x00EE) _ _ h₂
    · rw [Bool.not_eq_true]
      exact full (v := 0x00E0) _ _ h₁
  constructor
  · intro h
    obtain ⟨e, he, rfl⟩ := Option.map_eq_some_iff.mp h
    have he' : findRow? (instructionTable.drop 2) w = some e := skipped ▸ he
    have hm := List.find?_some he'
    exact (matches_iff_encoded h₁ h₂ e (List.mem_of_find?_eq_some he')).mp hm
  · intro h
    obtain ⟨e, he, rfl⟩ : ∃ e ∈ instructionTable.drop 2, e.operation = op := by
      cases op with
      | clearScreen => exact absurd h h₁
      | «return» => exact absurd h h₂
      | _ => decide
    have hm := (matches_iff_encoded h₁ h₂ e he).mpr h
    cases hf : findRow? (instructionTable.drop 2) w with
    | none => exact absurd hm (List.find?_eq_none.mp hf e he)
    | some e' =>
      have same := operation_eq_of_matches (List.mem_of_find?_eq_some hf) he
        (List.find?_some (p := fun e : TableEntry => e.matches w) hf) hm
      rw [Decoded.operation?, Decoded.ofOpcode, skipped, hf, Option.map_some, same]

theorem Decoded.row_eq_none_of_unknown {w : UInt16} (h : ∀ op : Operation, ¬ op.Encoded w.toNat) :
    (Decoded.ofOpcode w).row? = none := by
  cases hop : (Decoded.ofOpcode w).operation? with
  | none => exact Option.map_eq_none_iff.mp hop
  | some op => exact absurd ((operation_eq_some_iff w op).mp hop) (h op)

theorem System.execute_eq_perform {d : Decoded} {op : Operation} (h : d.operation? = some op) :
    execute d = perform op d.operands := by
  obtain ⟨e, he, rfl⟩ := Option.map_eq_some_iff.mp h
  unfold execute
  rw [he]

theorem System.execute_of_encoded {w : UInt16} {op : Operation} (h : op.Encoded w.toNat) :
    execute (.ofOpcode w) = perform op (.ofOpcode w) :=
  execute_eq_perform ((operation_eq_some_iff w op).mpr h)

end Chip8

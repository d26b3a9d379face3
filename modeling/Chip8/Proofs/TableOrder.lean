import Mathlib.Data.List.Nodup
import Chip8.Proofs.Decoding
import Chip8.Proofs.Writes

/-!
# The order of the table

The first match depends on the order of the entries only where two of them match one opcode.

* `Operation.Precedes` names the pairs of operations whose order matters: `00E0` and `00EE` come
  before `0NNN`.
* `matched_together_iff`: two entries match one opcode just if they are the same entry, or such a
  pair.
* `Ahead table a b`: the operation `a` stands before `b` in a table. The first match is then none
  that an earlier one would take (`findRow?_ne_of_ahead`), and whatever else matches stands behind
  it (`ahead_of_found`).
* `lookups_agree_iff_ahead`: the orders of the table in which every opcode is decoded alike.
-/

namespace Chip8

/-- The second operation matches the only opcode of the first, too. -/
def Operation.Precedes (a b : Operation) : Prop :=
  (a = .clearScreen ∨ a = .return) ∧ b = .routine

instance (a b : Operation) : Decidable (a.Precedes b) :=
  inferInstanceAs (Decidable ((a = .clearScreen ∨ a = .return) ∧ b = .routine))

theorem Operation.Precedes.ne {a b : Operation} (h : a.Precedes b) : a ≠ b := by
  rintro rfl
  rcases h.1 with same | same
  · cases same.symm.trans h.2
  · cases same.symm.trans h.2

theorem operations_distinct : (instructionTable.map (·.operation)).Nodup := by decide

theorem entry_eq_of_operation {a b : TableEntry} (ha : a ∈ instructionTable)
    (hb : b ∈ instructionTable) (same : a.operation = b.operation) : a = b :=
  List.inj_on_of_nodup_map operations_distinct ha hb same

/-- **Two entries match one opcode** just if they are the same entry, or one precedes the other. -/
theorem matched_together_iff {a b : TableEntry} (ha : a ∈ instructionTable)
    (hb : b ∈ instructionTable) : (∃ w, a.matches w ∧ b.matches w) ↔
      a = b ∨ a.operation.Precedes b.operation ∨ b.operation.Precedes a.operation := by
  constructor
  · rintro ⟨w, hwa, hwb⟩
    have apart : ∀ a ∈ instructionTable, ∀ b ∈ instructionTable,
        a.value &&& b.mask = b.value &&& a.mask → a.operation = b.operation ∨
          a.operation.Precedes b.operation ∨ b.operation.Precedes a.operation := by decide +kernel
    have related := apart a ha b hb (compatible_of_matches hwa hwb)
    exact related.imp_left (entry_eq_of_operation ha hb)
  · intro related
    -- What both compare is the same, so the bits of both values together match either.
    have joined : ∀ a ∈ instructionTable, ∀ b ∈ instructionTable, a.operation = b.operation ∨
        a.operation.Precedes b.operation ∨ b.operation.Precedes a.operation →
          a.matches (a.value ||| b.value) ∧ b.matches (a.value ||| b.value) := by decide +kernel
    exact ⟨_, joined a ha b hb (related.imp_left (congrArg TableEntry.operation))⟩

/-- In the table the one operation stands before the other. -/
def Ahead (table : List TableEntry) (a b : Operation) : Prop :=
  [a, b].Sublist (table.map (·.operation))

instance (table : List TableEntry) (a b : Operation) : Decidable (Ahead table a b) :=
  inferInstanceAs (Decidable ([a, b].Sublist (table.map (·.operation))))

section Ahead

variable {table : List TableEntry} {a b : TableEntry} {w : UInt16}

theorem ahead_iff {p q : Operation} : Ahead table p q ↔ ∃ before after, table = before ++ after ∧
    p ∈ before.map (·.operation) ∧ q ∈ after.map (·.operation) := by
  rw [Ahead, List.cons_sublist_iff]
  constructor
  · rintro ⟨l, l', split, hp, hq⟩
    obtain ⟨before, after, rfl, rfl, rfl⟩ := List.map_eq_append_iff.mp split
    exact ⟨before, after, rfl, hp, List.singleton_sublist.mp hq⟩
  · rintro ⟨before, after, rfl, hp, hq⟩
    exact ⟨_, _, List.map_append, hp, List.singleton_sublist.mpr hq⟩

/-- An entry is not found where one that stands before it matches. -/
theorem findRow?_ne_of_ahead (distinct : (table.map (·.operation)).Nodup)
    (ahead : Ahead table a.operation b.operation) (ha : a ∈ table) (matched : a.matches w) :
    findRow? table w ≠ some b := by
  intro found
  obtain ⟨before, after, rfl, first, second⟩ := ahead_iff.mp ahead
  rw [List.map_append, List.nodup_append'] at distinct
  obtain ⟨-, -, apart⟩ := distinct
  have early : a ∈ before := by
    rcases List.mem_append.mp ha with early | late
    · exact early
    · exact absurd (List.mem_map_of_mem late) (apart first)
  have some_found : (before.find? (·.matches w)).isSome := List.find?_isSome.mpr ⟨a, early, matched⟩
  obtain ⟨x, hx⟩ := Option.isSome_iff_exists.mp some_found
  rw [findRow?, List.find?_append, hx, Option.some_or] at found
  obtain rfl := Option.some.inj found
  exact apart (List.mem_map_of_mem (List.mem_of_find?_eq_some hx)) second

/-- Whatever else matches stands behind the entry that is found. -/
theorem ahead_of_found (found : findRow? table w = some a) (hb : b ∈ table) (matched : b.matches w)
    (other : b ≠ a) : Ahead table a.operation b.operation := by
  obtain ⟨-, before, after, rfl, unmatched⟩ := List.find?_eq_some_iff_append.mp found
  have late : b ∈ after := by
    rcases List.mem_append.mp hb with early | late
    · have missed := unmatched b early
      rw [matched] at missed
      cases missed
    · exact (List.mem_cons.mp late).resolve_left other
  refine ahead_iff.mpr ⟨before ++ [a], after, ?_, ?_, List.mem_map_of_mem late⟩
  · rw [List.append_assoc, List.singleton_append]
  · exact List.mem_map_of_mem List.mem_concat_self

variable (perm : table.Perm instructionTable)

include perm

theorem operations_distinct_of_perm : (table.map (·.operation)).Nodup :=
  (perm.map _).nodup_iff.mpr operations_distinct

/-- In an order that keeps the two pairs, every opcode finds its entry. -/
theorem findRow?_of_ahead (kept : ∀ p q : Operation, p.Precedes q → Ahead table p q) (w : UInt16) :
    findRow? table w = findRow? instructionTable w := by
  have usual : ∀ p q : Operation, p.Precedes q → Ahead instructionTable p q := by
    rintro p q ⟨rfl | rfl, rfl⟩
    · decide
    · decide
  cases found : findRow? instructionTable w with
  | none =>
    apply List.find?_eq_none.mpr
    intro e he
    exact List.find?_eq_none.mp found e (perm.mem_iff.mp he)
  | some e =>
    have he := List.mem_of_find?_eq_some found
    have hm : e.matches w := List.find?_some (p := fun e : TableEntry => e.matches w) found
    cases found' : findRow? table w with
    | none => exact absurd hm (List.find?_eq_none.mp found' e (perm.mem_iff.mpr he))
    | some e' =>
      have he' := perm.mem_iff.mp (List.mem_of_find?_eq_some found')
      have hm' : e'.matches w := List.find?_some (p := fun e : TableEntry => e.matches w) found'
      rcases (matched_together_iff he he').mp ⟨w, hm, hm'⟩ with same | before | behind
      · rw [same]
      · have missed := findRow?_ne_of_ahead (operations_distinct_of_perm perm) (kept _ _ before)
          (perm.mem_iff.mpr he) hm
        exact absurd found' missed
      · have missed := findRow?_ne_of_ahead operations_distinct (usual _ _ behind) he' hm'
        exact absurd found missed

/-- An entry that is found stands ahead of what it precedes, if that matches too. -/
theorem ahead_of_precedes (found : findRow? table w = some a) (hb : b ∈ instructionTable)
    (matched : b.matches w) (precedes : a.operation.Precedes b.operation) :
    Ahead table a.operation b.operation := by
  apply ahead_of_found found (perm.mem_iff.mpr hb) matched
  rintro rfl
  exact precedes.ne rfl

end Ahead

/-- **The order of the table matters in two places only.** In another order of the entries every
number is decoded as before just if `00E0` and `00EE` still stand ahead of `0NNN`; and no other two
entries match one opcode. -/
theorem lookups_agree_iff_ahead {table : List TableEntry} (perm : table.Perm instructionTable) :
    ((∀ (opcode : Int) (w : UInt16), (w.toNat : Int) = opcode % 65536 →
        findRow? table w = (Decoded.ofWord opcode).row?) ↔
      Ahead table .clearScreen .routine ∧ Ahead table .return .routine) ∧
    ∀ a ∈ table, ∀ b ∈ table, (∃ w, a.matches w ∧ b.matches w) ↔
      a = b ∨ a.operation.Precedes b.operation ∨ b.operation.Precedes a.operation := by
  constructor
  · constructor
    · intro agree
      have general : (⟨.routine, "0NNN", 0xF000, 0x0000⟩ : TableEntry) ∈ instructionTable := by
        simp [instructionTable]
      have clear := agree 0x00E0 0x00E0 (by decide)
      have back := agree 0x00EE 0x00EE (by decide)
      constructor
      · exact ahead_of_precedes perm clear general (by decide) (by decide)
      · exact ahead_of_precedes perm back general (by decide) (by decide)
    · rintro ⟨clear, back⟩ opcode w low
      have kept : ∀ p q : Operation, p.Precedes q → Ahead table p q := by
        rintro p q ⟨rfl | rfl, rfl⟩
        · exact clear
        · exact back
      have word : UInt16.ofInt opcode = w := by
        apply UInt16.toNat_inj.mp
        rw [toNat_wordOfInt]
        omega
      rw [findRow?_of_ahead perm kept, ← word]
      rfl
  · intro a ha b hb
    exact matched_together_iff (perm.mem_iff.mp ha) (perm.mem_iff.mp hb)

/-- The other entries may stand first and backwards. With the whole table backwards `00E0` is
lost. -/
theorem lookups_agree_iff_ahead_backwards :
    let late := (instructionTable.drop 3).reverse ++ instructionTable.take 3
    let backwards := instructionTable.reverse
    late.Perm instructionTable ∧ backwards.Perm instructionTable ∧
      findRow? late 0x00E0 = (Decoded.ofWord (-0xFF20)).row? ∧
      ¬ ∀ (opcode : Int) (w : UInt16), (w.toNat : Int) = opcode % 65536 →
        findRow? backwards w = (Decoded.ofWord opcode).row? := by
  intro late backwards
  have moved : late.Perm instructionTable := by
    have front : late.Perm (instructionTable.drop 3 ++ instructionTable.take 3) :=
      (List.reverse_perm _).append_right _
    exact front.trans (List.perm_append_comm.trans (.of_eq (List.take_append_drop 3 _)))
  have turned : backwards.Perm instructionTable := List.reverse_perm _
  refine ⟨moved, turned, ?_, ?_⟩
  · exact (lookups_agree_iff_ahead moved).1.mpr (by decide) (-0xFF20) 0x00E0 (by decide)
  · intro agree
    have ahead := (lookups_agree_iff_ahead turned).1.mp agree
    exact absurd ahead.1 (by decide)

end Chip8

import Chip8.Snapshot.Difference
import Mathlib.Data.List.Nodup

/-!
# Exact differences

The difference of two snapshots lists what differs, all of it and nothing else.

* `NamedRegister` names the 21 registers of a snapshot in their order. `registers_between`,
  `mem_addresses_iff` and `displayChanged_between_iff` say what is listed.
* `Difference.patch` replaces what is listed: `same_patch` says that this gives the later snapshot.
* `between_swap`: seen from the later snapshot, the changes go the other way.
-/

namespace Chip8

/-- A register of a snapshot. -/
inductive NamedRegister where
  | v (k : VIndex)
  | i
  | pc
  | sp
  | dt
  | st
  deriving DecidableEq

namespace NamedRegister

/-- The registers in the order in which they are listed. -/
def all : List NamedRegister := (List.finRange registerCount).map v ++ [i, pc, sp, dt, st]

def name : NamedRegister → String
  | v k => "v" ++ HexCase.lower.nat 1 k.val
  | i => "i"
  | pc => "pc"
  | sp => "sp"
  | dt => "dt"
  | st => "st"

def value (s : Snapshot) : NamedRegister → Nat
  | v k => (s.v.get k).toNat
  | i => s.i.toNat
  | pc => s.pc.toNat
  | sp => s.sp.toNat
  | dt => s.dt.toNat
  | st => s.st.toNat

/-- The snapshot with a register replaced. -/
def assign (s : Snapshot) (n : Nat) : NamedRegister → Snapshot
  | v k => { s with v := s.v.set k (UInt8.ofNat n) k.isLt }
  | i => { s with i := UInt16.ofNat n }
  | pc => { s with pc := UInt16.ofNat n }
  | sp => { s with sp := UInt8.ofNat n }
  | dt => { s with dt := UInt8.ofNat n }
  | st => { s with st := UInt8.ofNat n }

def ofName? (name : String) : Option NamedRegister := all.find? fun r => r.name = name

theorem mem_all (r : NamedRegister) : r ∈ all := by
  cases r <;> simp [all]

theorem names_all : all.map name = ["v0", "v1", "v2", "v3", "v4", "v5", "v6", "v7", "v8", "v9",
    "va", "vb", "vc", "vd", "ve", "vf", "i", "pc", "sp", "dt", "st"] := by
  have numbered : name ∘ v = fun k => "v" ++ String.ofList [HexCase.lower.digit k.val] := by
    funext k
    rw [Function.comp_apply, name, HexCase.nat, HexCase.digits, if_pos k.isLt]
    rfl
  rw [all, List.map_append, List.map_map, numbered]
  rfl

theorem name_injective {r r' : NamedRegister} (same : r.name = r'.name) : r = r' := by
  have distinct : (all.map name).Nodup := by
    rw [names_all]
    decide
  exact List.inj_on_of_nodup_map distinct r.mem_all r'.mem_all same

theorem ofName?_name (r : NamedRegister) : ofName? r.name = some r := by
  cases found : ofName? r.name with
  | none =>
    have missing := List.find?_eq_none.mp found r r.mem_all
    simp at missing
  | some r' =>
    have named : r'.name = r.name := by simpa using List.find?_some found
    rw [name_injective named]

theorem value_assign (s b : Snapshot) (r r' : NamedRegister) :
    value (r'.assign s (r'.value b)) r = if r = r' then r.value b else r.value s := by
  cases r' with
  | v k' =>
    cases r with
    | v k =>
      by_cases same : k = k'
      · subst same
        rw [if_pos rfl]
        simp only [assign, value, UInt8.ofNat_toNat]
        exact congrArg UInt8.toNat (Vector.getElem_set_self k.isLt)
      · rw [if_neg fun e => same (v.inj e)]
        exact congrArg UInt8.toNat
          (Vector.getElem_set_ne k'.isLt k.isLt fun e => same (Fin.ext e.symm))
    | _ => simp [assign, value]
  | _ => cases r <;> simp [assign, value]

/-- The values of the registers do not depend on the other fields. -/
theorem value_with (s : Snapshot) (memory : Memory) (key : Option Key) (cycle : WholeNumber)
    (r : NamedRegister) :
    r.value { s with memory := memory, key := key, cycle := cycle } = r.value s := by
  cases r <;> rfl

end NamedRegister

theorem Snapshot.registers_eq (s : Snapshot) :
    s.registers = NamedRegister.all.map fun r => (r.name, r.value s) := by
  simp [registers, NamedRegister.all, NamedRegister.name, NamedRegister.value, List.map_map]

namespace Snapshot

/-- The snapshots are equal in every register and byte, in the key and in the number of cycles. -/
structure Same (a b : Snapshot) : Prop where
  registers : ∀ r : NamedRegister, r.value a = r.value b
  memory : ∀ x, a.memory.get x = b.memory.get x
  key : a.key = b.key
  cycle : a.cycle.value = b.cycle.value

/-- The snapshot with the register of a name replaced by the new value of its change. -/
def replace (s : Snapshot) (change : String × Change Nat) : Snapshot :=
  match NamedRegister.ofName? change.1 with
  | some r => r.assign s change.2.after
  | none => s

end Snapshot

namespace Change

variable {α : Type}

def swap (c : Change α) : Change α := ⟨c.after, c.before⟩

theorem between?_isNone [DecidableEq α] (before after : α) :
    (between? before after).isNone = true ↔ before = after := by
  unfold between?
  split <;> simp [*]

theorem ofWhole?_isNone (before after : WholeNumber) :
    (ofWhole? before after).isNone = true ↔ before.value = after.value := by
  unfold ofWhole?
  split <;> simp [*]

theorem between?_swap [DecidableEq α] (before after : α) :
    between? after before = (between? before after).map swap := by
  unfold between?
  by_cases same : before = after
  · simp [same]
  · simp [same, Ne.symm same, swap]

theorem ofWhole?_swap (before after : WholeNumber) :
    ofWhole? after before = (ofWhole? before after).map swap := by
  unfold ofWhole?
  by_cases same : before.value = after.value
  · simp [same]
  · simp [same, Ne.symm same, swap]

end Change

namespace Difference

variable (a b c : Snapshot)

/-- The registers of differing values in their order, each with both values. -/
theorem registers_between : (between a b).registers =
    (NamedRegister.all.filter fun r => r.value a ≠ r.value b).map
      fun r => (r.name, ⟨r.value a, r.value b⟩) := by
  simp only [between, namedChanges, Snapshot.registers_eq]
  -- Both lists have one entry for each register, so they are walked together.
  induction NamedRegister.all with
  | nil => rfl
  | cons r rest ih =>
    simp only [List.map_cons, List.zip_cons_cons, List.filterMap_cons, Change.between?]
    by_cases same : r.value a = r.value b
    · simpa [same, Change.between?] using ih
    · simpa [same, Change.between?] using ih

theorem addresses_between : (between a b).addresses = changedAddresses a.memory b.memory := by
  rw [between]

theorem mem_addresses_iff (x : Nat) : x ∈ (between a b).addresses ↔
    ∃ h : x < memorySize, a.memory[x] ≠ b.memory[x] := by
  rw [addresses_between]
  simp only [changedAddresses, List.mem_map, List.mem_filter, List.mem_finRange, true_and,
    decide_eq_true_eq]
  constructor
  · rintro ⟨k, differ, rfl⟩
    exact ⟨k.isLt, differ⟩
  · rintro ⟨h, differ⟩
    exact ⟨⟨x, h⟩, differ, rfl⟩

theorem addresses_ascending : (between a b).addresses.Pairwise (· < ·) := by
  rw [addresses_between, changedAddresses, List.pairwise_map]
  exact (List.pairwise_lt_finRange memorySize).filter _

theorem addresses_eq_nil_iff :
    (between a b).addresses = [] ↔ ∀ x, a.memory.get x = b.memory.get x := by
  rw [List.eq_nil_iff_forall_not_mem]
  constructor
  · intro none x
    by_contra differ
    exact none x ((mem_addresses_iff a b x).mpr ⟨x.isLt, differ⟩)
  · intro same x changed
    obtain ⟨h, differ⟩ := (mem_addresses_iff a b x).mp changed
    exact differ (same ⟨x, h⟩)

/-- The display is the part of memory from `displayStart` on. -/
theorem displayChanged_between_iff : (between a b).displayChanged = true ↔
    ∃ x ∈ (between a b).addresses, displayStart ≤ x := by
  have compared : (between a b).displayChanged = (a.display != b.display) := by rw [between]
  simp only [compared, bne_iff_ne, ne_eq, Snapshot.display, Window.bytes, List.map_inj_left,
    List.mem_finRange, forall_const, not_forall, mem_addresses_iff]
  constructor
  · rintro ⟨k, differ⟩
    exact ⟨displayWindow.place k, ⟨(displayWindow.place k).isLt, differ⟩, Nat.le_add_right _ _⟩
  · rintro ⟨x, ⟨h, differ⟩, shown⟩
    let k : Fin displayWindow.size := ⟨x - displayStart, Nat.sub_lt_left_of_lt_add shown h⟩
    have place : (displayWindow.place k).val = x := Nat.add_sub_of_le shown
    refine ⟨k, ?_⟩
    simpa only [Window.byte, Fin.getElem_fin, place] using differ

theorem isEmpty_between_iff : (between a b).isEmpty = true ↔ a.Same b := by
  simp only [isEmpty, Bool.and_eq_true, List.isEmpty_iff, Bool.not_eq_true']
  constructor
  · rintro ⟨⟨⟨⟨registers, addresses⟩, -⟩, key⟩, cycle⟩
    rw [registers_between, List.map_eq_nil_iff, List.filter_eq_nil_iff] at registers
    exact {
      registers r := by simpa using registers r r.mem_all
      memory := (addresses_eq_nil_iff a b).mp addresses
      key := (Change.between?_isNone _ _).mp key
      cycle := (Change.ofWhole?_isNone _ _).mp cycle }
  · intro same
    have addresses : (between a b).addresses = [] :=
      (addresses_eq_nil_iff a b).mpr same.memory
    have display : (between a b).displayChanged = false := by
      rw [← Bool.not_eq_true, displayChanged_between_iff, addresses]
      rintro ⟨x, none, -⟩
      cases none
    refine ⟨⟨⟨⟨?_, addresses⟩, display⟩, ?_⟩, ?_⟩
    · simp [registers_between, same.registers]
    · exact (Change.between?_isNone _ _).mpr same.key
    · exact (Change.ofWhole?_isNone _ _).mpr same.cycle

/-- The bytes with those at some places replaced by others. -/
def patchBytes {n : Nat} (places : List Nat) (old new : Vector UInt8 n) : Vector UInt8 n :=
  Vector.ofFn fun x => if places.contains x.val then new.get x else old.get x

theorem get_patchBytes {n : Nat} (places : List Nat) (old new : Vector UInt8 n) (x : Fin n) :
    (patchBytes places old new).get x = if places.contains x.val then new.get x else old.get x :=
  Vector.getElem_ofFn x.isLt

/-- The first snapshot with what is listed replaced: the registers and other fields by their new
values, and the bytes at the listed addresses by those of the second. -/
def patch (d : Difference) (a b : Snapshot) : Snapshot :=
  { d.registers.foldl Snapshot.replace a with
    memory := patchBytes d.addresses a.memory b.memory
    key := (d.key.map Change.after).getD a.key
    cycle := (d.cycle.map Change.after).getD a.cycle }

theorem value_foldl_replace (s : Snapshot) (rs : List NamedRegister) (old : NamedRegister → Nat)
    (r : NamedRegister) :
    r.value ((rs.map fun r => (r.name, ⟨old r, r.value b⟩)).foldl Snapshot.replace s)
      = if rs.contains r then r.value b else r.value s := by
  induction rs generalizing s with
  | nil => rfl
  | cons r' rest ih =>
    rw [List.map_cons, List.foldl_cons, ih]
    simp only [Snapshot.replace, NamedRegister.ofName?_name, NamedRegister.value_assign,
      List.contains_cons, Bool.or_eq_true, beq_iff_eq]
    by_cases later : rest.contains r = true
    · rw [if_pos later, if_pos (.inr later)]
    · rw [if_neg later]
      by_cases here : r = r'
      · rw [if_pos here, if_pos (.inl here)]
      · rw [if_neg here, if_neg (not_or.mpr ⟨here, later⟩)]

theorem same_patch : ((between a b).patch a b).Same b where
  registers r := by
    -- Memory, key and cycle are replaced after the registers and do not touch them.
    rw [patch, NamedRegister.value_with, registers_between, value_foldl_replace]
    by_cases same : r.value a = r.value b
    · simp [same]
    · simp [same, r.mem_all]
  memory x := by
    rw [patch, get_patchBytes]
    split
    · rfl
    · rename_i kept
      by_contra differ
      exact kept (List.contains_iff_mem.mpr ((mem_addresses_iff a b x).mpr ⟨x.isLt, differ⟩))
  key := by
    simp only [patch, between, Change.between?]
    split <;> simp [*]
  cycle := by
    simp only [patch, between, Change.ofWhole?]
    split <;> simp [*]

/-- The difference seen from the later snapshot. -/
def swap (d : Difference) : Difference where
  registers := d.registers.map fun (name, change) => (name, change.swap)
  addresses := d.addresses
  displayChanged := d.displayChanged
  key := d.key.map Change.swap
  cycle := d.cycle.map Change.swap

theorem between_swap : between b a = (between a b).swap := by
  have registers : (between b a).registers = (between a b).swap.registers := by
    simp [swap, registers_between, Change.swap, ne_comm, List.map_map]
  have addresses : changedAddresses b.memory a.memory = changedAddresses a.memory b.memory := by
    simp only [changedAddresses, ne_comm]
  have display : (b.display != a.display) = (a.display != b.display) := bne_comm
  simp only [swap, between] at registers ⊢
  rw [registers, addresses, display, Change.between?_swap, Change.ofWhole?_swap]

/-- **Differences are exact.** The difference of any two snapshots is empty if and only if they are
the same. Its addresses are those of the bytes that differ, in ascending order, and the display has
changed if and only if one of them is in it. Its registers are those of differing values, each
once and in order, with both values. What it lists is enough to get from the first snapshot to the
second one; the difference the other way lists the same with the values exchanged; and on a way
over a third snapshot each changed address changes on one part of the way. -/
theorem differences_exact :
    ((between a b).isEmpty = true ↔ a.Same b) ∧
    (between a b).addresses.Pairwise (· < ·) ∧
    (∀ x, x ∈ (between a b).addresses ↔ ∃ h : x < memorySize, a.memory[x] ≠ b.memory[x]) ∧
    ((between a b).displayChanged = true ↔ ∃ x ∈ (between a b).addresses, 0xF00 ≤ x) ∧
    NamedRegister.all.map NamedRegister.name = ["v0", "v1", "v2", "v3", "v4", "v5", "v6", "v7",
      "v8", "v9", "va", "vb", "vc", "vd", "ve", "vf", "i", "pc", "sp", "dt", "st"] ∧
    (between a b).registers = (NamedRegister.all.filter fun r => r.value a ≠ r.value b).map
      (fun r => (r.name, ⟨r.value a, r.value b⟩)) ∧
    ((between a b).patch a b).Same b ∧
    between b a = (between a b).swap ∧
    ∀ x ∈ (between a c).addresses, x ∈ (between a b).addresses ∨ x ∈ (between b c).addresses := by
  refine ⟨isEmpty_between_iff a b, addresses_ascending a b,
    mem_addresses_iff a b, displayChanged_between_iff a b,
    NamedRegister.names_all, registers_between a b, same_patch a b, between_swap a b, ?_⟩
  intro x changed
  obtain ⟨h, differ⟩ := (mem_addresses_iff a c x).mp changed
  by_cases first : a.memory[x] = b.memory[x]
  · right
    exact (mem_addresses_iff b c x).mpr ⟨h, first ▸ differ⟩
  · left
    exact (mem_addresses_iff a b x).mpr ⟨h, first⟩

end Difference

end Chip8

import Chip8.Proofs.Arithmetic

/-!
# Blocks of bytes

A block goes on at the start of memory after its end, wherever it starts.

* `Machine.Written`: each place of a block holds the last byte that goes to it. A block of at most
  two parts, one up to the end of memory and one from its start on, is written so
  (`yields_writeBlock`).
* `Machine.Stored`: no two bytes of a block go to one place, so all of them are there. A block that
  memory can hold is stored so, and read back from there (`Stored.readBlock`).
* `Machine.Loaded`: registers hold a list of bytes, as they do once they are loaded
  (`course_loadFrom`).
* `blocks_round_trip` puts these together: what is written is read back, from each address that is
  the same modulo 4096, and what registers are dumped is loaded again.
-/

namespace Chip8

open Chip8.Action Chip8.System

theorem cell_add_congr {a b : Int} (same : a % memorySize = b % memorySize) (k : Nat) :
    cell (a + k) = cell (b + k) := by
  apply Fin.ext
  simp only [cell, memorySize] at same ⊢
  omega

namespace Machine

/-- The second machine is the first one after bytes were written from an address on. -/
structure Written (m m' : Machine) (address : Int) (bytes : List UInt8) : Prop where
  /-- Each place of the block holds the last byte that goes to it. -/
  last : ∀ k (hk : k < bytes.length),
    (∀ j, k < j → j < bytes.length → cell (address + j) ≠ cell (address + k)) →
      m'.memory.get (cell (address + k)) = bytes[k]
  /-- Every other byte is as it was. -/
  others : ∀ a, (∀ k < bytes.length, a ≠ cell (address + k)) → m'.memory.get a = m.memory.get a
  /-- So is everything else. -/
  rest : m' = { m with memory := m'.memory }

/-- The second machine is the first one with bytes stored from an address on. -/
structure Stored (m m' : Machine) (address : Int) (bytes : List UInt8) : Prop where
  each : ∀ k (hk : k < bytes.length), m'.memory.get (cell (address + k)) = bytes[k]
  others : ∀ a, (∀ k < bytes.length, a ≠ cell (address + k)) → m'.memory.get a = m.memory.get a
  rest : m' = { m with memory := m'.memory }

/-- The second machine is the first one with bytes in its registers, from one of them on. -/
structure Loaded (m m' : Machine) (index : Nat) (bytes : List UInt8) : Prop where
  each : ∀ k (hk : k < bytes.length) (j : VIndex), (j : Nat) = index + k → m'.v.get j = bytes[k]
  others : ∀ j : VIndex, (j : Nat) < index ∨ index + bytes.length ≤ j → m'.v.get j = m.v.get j
  rest : m' = { m with v := m'.v }

variable {m m₁ m₂ m' : Machine} {address : Int} {bytes : List UInt8}

/-- Bytes that end before memory does. -/
theorem written_store {start : Nat} (place : (cell address).val = start)
    (fits : start + bytes.length ≤ memorySize) (m : Machine) :
    m.Written { m with memory := m.memory.store start bytes } address bytes where
  last k hk _ := by
    have at_k : (cell (address + k)).val = start + k := by
      rw [val_cell_add, place, Nat.mod_eq_of_lt (by omega)]
    have inside : start ≤ (cell (address + k)).val ∧
        (cell (address + k)).val - start < bytes.length := by omega
    refine (Memory.getElem_store _ _ _ (cell _).isLt).trans ((dif_pos inside).trans ?_)
    simp only [at_k, Nat.add_sub_cancel_left]
  others a ha := by
    refine (Memory.getElem_store _ _ _ a.isLt).trans (dif_neg fun ⟨h₁, h₂⟩ => ?_)
    refine ha _ h₂ (Fin.ext ?_)
    rw [val_cell_add, place, Nat.add_sub_of_le h₁, Nat.mod_eq_of_lt a.isLt]
  rest := rfl

/-- One block behind the other is a block. -/
theorem Written.append {l₁ l₂ : List UInt8} (h₁ : m.Written m₁ address l₁)
    (h₂ : m₁.Written m₂ (address + l₁.length) l₂) : m.Written m₂ address (l₁ ++ l₂) := by
  have behind (j : Nat) : address + (l₁.length + j : Nat) = address + l₁.length + j := by omega
  constructor
  case last =>
    intro k hk later
    rw [List.length_append] at hk later
    by_cases first : k < l₁.length
    -- the second block spares the place, since no later byte goes there
    · have spared : ∀ j < l₂.length, cell (address + k) ≠ cell (address + l₁.length + j) := by
        intro j hj same
        apply later (l₁.length + j) (by omega) (by omega)
        rw [same, behind]
      rw [List.getElem_append_left first, h₂.others _ spared]
      exact h₁.last k first fun j hj hj' => later j hj (by omega)
    · obtain ⟨i, rfl⟩ := Nat.exists_eq_add_of_le (Nat.not_lt.mp first)
      rw [List.getElem_append_right (Nat.le_add_right _ _), behind]
      simp only [Nat.add_sub_cancel_left]
      apply h₂.last i (by omega)
      intro j hj hj'
      rw [← behind, ← behind]
      exact later _ (by omega) (by omega)
  case others =>
    intro a ha
    rw [List.length_append] at ha
    have outside : ∀ k < l₂.length, a ≠ cell (address + l₁.length + k) := by
      intro k hk
      rw [← behind]
      exact ha _ (by omega)
    rw [h₂.others a outside]
    exact h₁.others a fun k hk => ha k (by omega)
  case rest => rw [h₂.rest, h₁.rest]

/-- Bytes that memory can hold go to places of their own. -/
theorem Written.stored (h : m.Written m' address bytes) (few : bytes.length ≤ memorySize) :
    m.Stored m' address bytes where
  each k hk := by
    apply h.last k hk
    intro j hj hj' same
    have same := congrArg Fin.val same
    rw [val_cell_add, val_cell_add] at same
    simp only [memorySize] at few same
    omega
  others := h.others
  rest := h.rest

theorem length_readBlock (m : Machine) (address : Int) (length : Nat) :
    (m.readBlock address length).length = length := by
  rw [readBlock, List.length_map, List.length_range]

theorem getElem_readBlock (m : Machine) (address : Int) {length k : Nat}
    (hk : k < (m.readBlock address length).length) :
    (m.readBlock address length)[k] = m.memory.get (cell (address + k)) := by
  simp only [readBlock, List.getElem_map, List.getElem_range, readByte]

/-- What is stored is read back as long as memory is kept, from any address that counts as the
same. -/
theorem Stored.readBlock {later : Machine} (h : m.Stored m' address bytes)
    (kept : later.memory = m'.memory) {b : Int} (same : address % memorySize = b % memorySize) :
    later.readBlock b bytes.length = bytes := by
  apply List.ext_getElem (length_readBlock _ _ _)
  intro k _ hk
  rw [getElem_readBlock, kept, ← cell_add_congr same k, h.each k hk]

end Machine

namespace System

variable {ω : Type} [Observers ω] {address : Int} {bytes : List UInt8}

/-! ## Memory -/

/-- A block is written in at most two parts, if the second one fits into memory. -/
theorem yields_writeBlock (fits : (cell address).val + bytes.length ≤ 2 * memorySize)
    (m : Machine) : ∃ m', (writeBlock address (Data.numbers bytes)).Yields m () m' ∧
      m.Written m' address bytes := by
  by_cases whole : (cell address).val + bytes.length ≤ memorySize
  · rw [writeBlock_of_within whole]
    exact ⟨_, ⟨_, course_setItems whole m⟩, Machine.written_store rfl whole m⟩
  · have beyond := Nat.not_le.mp whole
    have head_fits := length_take_head beyond
    have tail_fits : 0 + (bytes.drop (memorySize - (cell address).val)).length ≤ memorySize := by
      rw [List.length_drop]
      omega
    have start : (cell (address +
        (bytes.take (memorySize - (cell address).val)).length)).val = 0 := by
      rw [val_cell_add, head_fits, Nat.mod_self]
    have written := (Machine.written_store rfl head_fits.le m).append
      (Machine.written_store start tail_fits _)
    rw [List.take_append_drop] at written
    rw [writeBlock_of_beyond beyond]
    exact ⟨_, .bind ⟨_, course_setItems head_fits.le m⟩ ⟨_, course_setItems tail_fits _⟩, written⟩

/-- A block that memory can hold is stored at any address. -/
theorem yields_writeBlock_stored (few : bytes.length ≤ memorySize) (address : Int) (m : Machine) :
    ∃ m', (writeBlock address (Data.numbers bytes)).Yields m () m' ∧ m.Stored m' address bytes := by
  have inside := (cell address).isLt
  have fits : (cell address).val + bytes.length ≤ 2 * memorySize := by omega
  obtain ⟨m', yields, written⟩ := yields_writeBlock fits m
  exact ⟨m', yields, written.stored few⟩

/-! ## Registers -/

theorem yields_regDump (n : Nat) (m : Machine) : ∃ m', (regDump n).Yields m () m' ∧
    m.Stored m' m.i.toNat (m.v.toList.take (n + 1)) := by
  have few : (m.v.toList.take (n + 1)).length ≤ memorySize := by
    rw [List.length_take, Vector.length_toList]
    simp only [registerCount, memorySize]
    omega
  obtain ⟨m', yields, stored⟩ := yields_writeBlock_stored few m.i.toNat m
  exact ⟨m', .bind ⟨_, course_look m⟩ yields, stored⟩

/-- What is told of registers that are loaded, from one of them on. -/
def loadTellings (index count : Nat) : List Telling :=
  (List.range' index count).map fun (k : Nat) => .event (.register (.v k))

/-- Registers that there are take the bytes one after another, and each is told. -/
theorem course_loadFrom : ∀ {index : Nat} (_ : index + bytes.length ≤ registerCount) (m : Machine),
    ∃ l m', (loadFrom index bytes).course m = ⟨l, .ok (), m'⟩ ∧ m.Loaded m' index bytes ∧
      l.map Moment.telling = loadTellings index bytes.length := by
  induction bytes with
  | nil => exact fun _ m => ⟨[], m, course_pure () m, ⟨nofun, fun _ _ => rfl, rfl⟩, rfl⟩
  | cons b rest ih =>
    intro index fits m
    rw [List.length_cons] at fits
    let k : VIndex := ⟨index, by omega⟩
    let m₁ := { m with v := m.v.set k b k.isLt }
    let x : Moment := ⟨m₁, .event (.register (.v (k : Nat)))⟩
    have first : (setVAt (k : Nat) b.toNat).course m = ⟨[x], .ok (), m₁⟩ := by
      rw [setVAt_register, course_setV, byteOfInt_toNat]
    have behind : index + 1 + rest.length ≤ registerCount := by omega
    obtain ⟨l, m', course, loaded, told⟩ := ih behind m₁
    refine ⟨x :: l, m', ?course, ⟨?each, ?others, ?rest⟩, ?told⟩
    case course =>
      refine (course_bind _ _ m).trans ?_
      rw [first]
      exact congrArg (Course.behind [x]) course
    case each =>
      intro i hi j hj
      cases i with
      | zero =>
        rw [loaded.others j (by omega), show j = k from Fin.ext hj]
        exact Arithmetic.get_set_self m.v k b
      | succ i => exact loaded.each i (Nat.lt_of_succ_lt_succ hi) j (by omega)
    case others =>
      intro j hj
      rw [List.length_cons] at hj
      have apart : j ≠ k := by
        rintro rfl
        simp only [k] at hj
        omega
      rw [loaded.others j (by omega)]
      exact Arithmetic.get_set_of_ne apart m.v b
    case rest => rw [loaded.rest]
    case told =>
      rw [List.map_cons, told, List.length_cons, loadTellings, loadTellings, List.range'_succ]
      rfl

theorem course_regLoad {n : Nat} (hn : n < registerCount) (m : Machine) :
    ∃ l m', (regLoad n).course m = ⟨l, .ok (), m'⟩ ∧
      m.Loaded m' 0 (m.readBlock m.i.toNat (n + 1)) ∧
      l.map Moment.telling = loadTellings 0 (n + 1) := by
  have counted := m.length_readBlock m.i.toNat (n + 1)
  have fits : 0 + (m.readBlock m.i.toNat (n + 1)).length ≤ registerCount := by omega
  obtain ⟨l, m', course, loaded, told⟩ := course_loadFrom fits m
  have count : min ((n : Int) + 1).toNat (registerCount + 1) = n + 1 := by omega
  rw [← count] at course
  exact ⟨l, m', course, loaded, counted ▸ told⟩

/-- Registers take back what was stored, also from another address that counts as the same. -/
theorem get_of_loaded {v : Vector UInt8 registerCount} {m₁ m₂ m' later : Machine} {n : Nat}
    (stored : m₁.Stored m₂ address (v.toList.take (n + 1))) (hn : n < registerCount)
    (kept : later.memory = m₂.memory) {b : Int} (same : address % memorySize = b % memorySize)
    (loaded : later.Loaded m' 0 (later.readBlock b (n + 1))) (k : VIndex) :
    m'.v.get k = if (k : Nat) ≤ n then v.get k else later.v.get k := by
  have count : (v.toList.take (n + 1)).length = n + 1 := by
    rw [List.length_take, Vector.length_toList]
    omega
  have back := stored.readBlock kept same
  rw [count] at back
  rw [back] at loaded
  split
  · next low =>
    rw [loaded.each k (by omega) k (Nat.zero_add _).symm, List.getElem_take, Vector.getElem_toList]
    rfl
  · next high => exact loaded.others k (.inr (by omega))

/-! ## Opcodes -/

variable {w : UInt16}

/-- An opcode whose operation is to do something with the machine and go on behind it. -/
theorem yields_execute {op : Operation} {a : Machine → Action Unit} {m' : Machine}
    (encoded : op.Encoded w.toNat)
    (performs : perform op (.ofOpcode w) = do let m ← look; a m; return none)
    (h : (a m).Yields m () m') : (execute (.ofOpcode w)).Yields m none m' := by
  rw [execute_of_encoded encoded, performs]
  exact .bind ⟨_, course_look m⟩ (.bind h ⟨_, course_pure none m'⟩)

theorem yields_dumpRegisters (encoded : Operation.dumpRegisters.Encoded w.toNat) (m : Machine) :
    ∃ m', (execute (.ofOpcode w)).Yields m none m' ∧
      m.Stored m' m.i.toNat (m.v.toList.take ((Operands.ofOpcode w).x + 1)) := by
  obtain ⟨m', dumping, stored⟩ := yields_regDump (Operands.ofOpcode w).x m
  exact ⟨m', yields_execute (a := fun _ => _) encoded rfl dumping, stored⟩

theorem yields_loadRegisters (encoded : Operation.loadRegisters.Encoded w.toNat) (m : Machine) :
    ∃ m', (execute (.ofOpcode w)).Yields m none m' ∧
      m.Loaded m' 0 (m.readBlock m.i.toNat ((Operands.ofOpcode w).x + 1)) := by
  obtain ⟨l, m', loading, loaded, -⟩ := course_regLoad (Operands.ofOpcode w).x.isLt m
  exact ⟨m', yields_execute (a := fun _ => _) encoded rfl ⟨l, loading⟩, loaded⟩

/-- The digits of a byte in memory make up the byte. -/
theorem yields_storeDecimal (encoded : Operation.storeDecimal.Encoded w.toNat) (m : Machine) :
    ∃ m' h t u, (execute (.ofOpcode w)).Yields m none m' ∧
      m.Stored m' m.i.toNat [h, t, u] ∧ h.toNat ≤ 9 ∧ t.toNat ≤ 9 ∧ u.toNat ≤ 9 ∧
      100 * h.toNat + 10 * t.toNat + u.toNat = (m.v.get (Operands.ofOpcode w).x).toNat := by
  have below := (m.v.get (Operands.ofOpcode w).x).toNat_lt
  have few (h t u : UInt8) : [h, t, u].length ≤ memorySize := by
    simp only [List.length_cons, List.length_nil, memorySize]
    omega
  obtain ⟨m', storing, stored⟩ := yields_writeBlock_stored (few _ _ _) m.i.toNat m
  rw [← decimalDigits_eq] at storing
  let a (m : Machine) := writeBlock m.i.toNat (decimalDigits (m.v.get (Operands.ofOpcode w).x))
  refine ⟨m', _, _, _, yields_execute (a := a) encoded rfl storing, stored, ?_⟩
  simp only [UInt8.toNat_ofNat']
  omega

/-- **What is written comes back**: a block that memory can hold is stored at any address, around
the end of memory if need be, and read back from each address that counts as the same. So registers
that were dumped are loaded as they were, whatever became of them, and a byte has its digits in
memory. Nothing else changes. -/
theorem blocks_round_trip (calm : Observers.Calm ω) (s : System ω) :
    let m := s.machine
    (∀ (a b : Int) (bytes : List UInt8), bytes.length ≤ memorySize →
      a % memorySize = b % memorySize →
      let after := run (writeBlock a (Data.numbers bytes)) s
      after.1 = .ok () ∧ m.Stored after.2.machine a bytes ∧
        after.2.machine.readBlock b bytes.length = bytes) ∧
    (∀ w : UInt16, Operation.dumpRegisters.Encoded w.toNat →
      let x := (Operands.ofOpcode w).x
      let dumped := run (execute (.ofOpcode w)) s
      dumped.1 = .ok none ∧
        m.Stored dumped.2.machine m.i.toNat (m.v.toList.take (x + 1)) ∧
        ∀ (w' : UInt16) (later : System ω), Operation.loadRegisters.Encoded w'.toNat →
          (Operands.ofOpcode w').x = x → later.machine.memory = dumped.2.machine.memory →
          m.i.toNat % memorySize = later.machine.i.toNat % memorySize →
          let loaded := run (execute (.ofOpcode w')) later
          let m' := loaded.2.machine
          loaded.1 = .ok none ∧ m' = { later.machine with v := m'.v } ∧
            ∀ k, m'.v.get k = if k ≤ x then m.v.get k else later.machine.v.get k) ∧
    ∀ w : UInt16, Operation.storeDecimal.Encoded w.toNat →
      let after := run (execute (.ofOpcode w)) s
      after.1 = .ok none ∧ ∃ h t u : UInt8, m.Stored after.2.machine m.i.toNat [h, t, u] ∧
        h.toNat ≤ 9 ∧ t.toNat ≤ 9 ∧ u.toNat ≤ 9 ∧
        100 * h.toNat + 10 * t.toNat + u.toNat = (m.v.get (Operands.ofOpcode w).x).toNat := by
  intro m
  refine ⟨?blocks, ?registers, ?digits⟩
  case blocks =>
    intro a b bytes few same
    obtain ⟨m', yields, stored⟩ := yields_writeBlock_stored few a m
    obtain ⟨result, rfl⟩ := run_of_yields calm yields
    exact ⟨result, stored, stored.readBlock rfl same⟩
  case registers =>
    intro w encoded x dumped
    obtain ⟨m₁, dumping, stored⟩ := yields_dumpRegisters encoded m
    obtain ⟨result, rfl⟩ := run_of_yields calm dumping
    refine ⟨result, stored, ?_⟩
    intro w' later encoded' hx kept same
    obtain ⟨m₂, loading, loaded⟩ := yields_loadRegisters encoded' later.machine
    obtain ⟨result', rfl⟩ := run_of_yields calm loading
    rw [hx] at loaded
    have same : (m.i.toNat : Int) % memorySize = later.machine.i.toNat % memorySize := by omega
    exact ⟨result', loaded.rest, get_of_loaded stored x.isLt kept same loaded⟩
  case digits =>
    intro w encoded
    obtain ⟨m₁, h, t, u, storing, stored, digits⟩ := yields_storeDecimal encoded m
    obtain ⟨result, rfl⟩ := run_of_yields calm storing
    exact ⟨result, h, t, u, stored, digits⟩

/-- All of memory from its last byte on, and registers and digits across the end of memory. -/
theorem blocks_round_trip_split :
    let v := (Vector.replicate registerCount (7 : UInt8)).set 3 254
    let s : System Transcript :=
      ⟨{ Machine.powerOn .unseeded with v := v, i := 0x1FFE }, ⟨[⟨.monitor, none⟩], ⟨[]⟩, []⟩⟩
    let bytes := List.replicate 4095 (7 : UInt8) ++ [9]
    let written := (run (writeBlock (-1) (Data.numbers bytes)) s).2.machine
    let dumped := (run (execute (.ofOpcode 0xF355)) s).2
    let zeros := Vector.replicate registerCount (0 : UInt8)
    let later := { dumped with machine := { dumped.machine with v := zeros, i := 0xFFE } }
    let loaded := (run (execute (.ofOpcode 0xF365)) later).2.machine
    let digits := (run (execute (.ofOpcode 0xF333)) s).2.machine
    written.readBlock 0x1FFF 4096 = bytes ∧ dumped.machine.memory.get 1 = 254 ∧
      loaded.v.get 3 = 254 ∧ loaded.v.get 4 = 0 ∧ digits.memory.get 0 = 4 := by
  intro v s bytes written dumped zeros later loaded digits
  have length_bytes : bytes.length = 4096 := by
    rw [List.length_append, List.length_replicate]
    rfl
  have same : (0x1FFE : UInt16).toNat % memorySize = (0xFFE : UInt16).toNat % memorySize := rfl
  have cell_three : cell ((0x1FFE : UInt16).toNat + (3 : Nat)) = 1 := by decide
  have cell_two : cell ((0x1FFE : UInt16).toNat + (2 : Nat)) = 0 := by decide
  obtain ⟨write, registers, decimal⟩ := blocks_round_trip calm_transcript s
  obtain ⟨-, -, read⟩ := write (-1) 0x1FFF bytes length_bytes.le rfl
  obtain ⟨-, stored, load⟩ := registers 0xF355 ⟨rfl, rfl⟩
  obtain ⟨-, -, restored⟩ := load 0xF365 later ⟨rfl, rfl⟩ rfl rfl same
  obtain ⟨-, h, t, u, placed, hh, ht, hu, sum⟩ := decimal 0xF333 ⟨rfl, rfl⟩
  rw [length_bytes] at read
  have ones : u = 4 := by
    apply UInt8.toNat_inj.mp
    have value : 100 * h.toNat + 10 * t.toNat + u.toNat = 254 := sum
    simp only [UInt8.reduceToNat]
    omega
  have fourth := stored.each 3 (by decide)
  have third := placed.each 2 (Nat.lt_add_one 2)
  rw [cell_three] at fourth
  rw [cell_two] at third
  exact ⟨read, fourth, restored 3, restored 4, third.trans ones⟩

end System

end Chip8

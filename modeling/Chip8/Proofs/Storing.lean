import Chip8.Proofs.Blocks

/-!
# Stores that fit

Memory is stored to as a whole or not at all.

* `Data.Fits`: data can be stored at an offset under a count. What fits takes the place of as many
  bytes as there are and is told (`course_setMemory_of_fits`, `Memory.toList_store`); what does not
  fit is refused before anything is done (`course_setMemory_of_not_fits`).
* `stores_all_or_nothing` says so of each store, and of each program that is loaded.
-/

namespace Chip8

open Chip8.Action Chip8.System

/-- Bytes that are stored take the place of as many others. -/
theorem Memory.toList_store (memory : Memory) {start : Nat} {bytes : List UInt8}
    (fits : start + bytes.length ≤ memorySize) : (memory.store start bytes).toList =
      memory.toList.take start ++ bytes ++ memory.toList.drop (start + bytes.length) := by
  have length_head : (memory.toList.take start).length = start := by
    rw [List.length_take, Vector.length_toList]
    omega
  apply List.ext_getElem
  · simp only [Vector.length_toList, List.length_append, List.length_drop, length_head]
    omega
  · intro a ha ha'
    rw [Vector.length_toList] at ha
    rw [Vector.getElem_toList, Memory.getElem_store memory start bytes ha]
    by_cases behind : (memory.toList.take start ++ bytes).length ≤ a
    · rw [List.getElem_append_right behind, List.getElem_drop, Vector.getElem_toList]
      simp only [List.length_append, length_head] at behind ⊢
      rw [dif_neg (by omega)]
      congr 1
      omega
    · rw [List.getElem_append_left (Nat.not_le.mp behind)]
      by_cases before : a < start
      · rw [dif_neg (by omega), List.getElem_append_left (by omega), List.getElem_take,
          Vector.getElem_toList]
      · rw [List.length_append, length_head] at behind
        rw [dif_pos ⟨by omega, by omega⟩, List.getElem_append_right (by omega)]
        simp only [length_head]

/-- Nothing at all also goes to the place after the last byte. -/
theorem Machine.stored_store {offset : Int} {bytes : List UInt8} (nonneg : 0 ≤ offset)
    (fits : offset.toNat + bytes.length ≤ memorySize) (m : Machine) :
    m.Stored { m with memory := m.memory.store offset.toNat bytes } offset bytes := by
  cases bytes with
  | nil => exact ⟨nofun, fun _ _ => rfl, rfl⟩
  | cons b rest =>
    have place : (cell offset).val = offset.toNat := by
      simp only [cell, memorySize, List.length_cons] at fits ⊢
      omega
    exact (written_store place fits m).stored (by omega)

theorem byteOf?_eq_some_iff {n : Int} {b : UInt8} : byteOf? n = some b ↔ n = b.toNat := by
  constructor
  · intro h
    unfold byteOf? at h
    split at h
    · next small =>
      obtain rfl := Option.some.inj h
      rw [UInt8.toNat_ofNat']
      omega
    · cases h
  · rintro rfl
    exact byteOf?_toNat b

theorem bytesOf?_eq_some_iff {ns : List Int} {bytes : List UInt8} :
    bytesOf? ns = some bytes ↔ ns = Data.numbers bytes := by
  constructor
  · intro h
    induction ns generalizing bytes with
    | nil =>
      obtain rfl := Option.some.inj h
      rfl
    | cons n rest ih =>
      simp only [bytesOf?, List.mapM_cons] at h ih
      obtain ⟨b, hb, h⟩ := Option.bind_eq_some_iff.mp h
      obtain ⟨tail, ht, h⟩ := Option.bind_eq_some_iff.mp h
      obtain rfl := Option.some.inj h
      rw [byteOf?_eq_some_iff.mp hb, ih ht]
      rfl
  · rintro rfl
    exact bytesOf?_numbers bytes

theorem exists_numbers_iff {ns : List Int} :
    (∃ bytes, ns = Data.numbers bytes) ↔ ∀ n ∈ ns, 0 ≤ n ∧ n < 256 := by
  constructor
  · rintro ⟨bytes, rfl⟩ n hn
    obtain ⟨b, -, rfl⟩ := List.mem_map.mp hn
    have := b.toNat_lt
    omega
  · intro small
    use ns.map fun n => UInt8.ofInt n
    have same : ∀ n ∈ ns, id n = ((UInt8.ofInt n).toNat : Int) := by
      intro n hn
      have := small n hn
      rw [toNat_byteOfInt, id]
      omega
    rw [Data.numbers, List.map_map]
    exact (List.map_id ns).symm.trans (List.map_congr_left same)

theorem length_cutAt_eq_iff {α : Type} {l : List α} {n : Int} :
    ((cutAt l n).length : Int) = n ↔ 0 ≤ n ∧ n ≤ l.length := by
  unfold cutAt
  rw [List.length_take]
  split <;> omega

namespace Data

/-- The length under which data is stored: a list goes in whole and a value once, unless another
length is given. -/
def count (data : Data) (length : Option WholeNumber) : WholeNumber :=
  length.getD (match data with
    | .fill _ => 1
    | .items ns => ns.length)

/-- As many numbers of the data as are stored; of a value the last eight bits. -/
def first (data : Data) (count : Nat) : List Int :=
  match data with
  | .fill n => List.replicate count (n % 256)
  | .items ns => ns.take count

/-- The data is bytes, and there are enough of them. -/
def Offers (data : Data) (count : Int) : Prop :=
  match data with
  | .fill _ => True
  | .items ns => (∀ n ∈ ns, 0 ≤ n ∧ n < 256) ∧ count ≤ ns.length

/-- Data can be stored at an offset under a count. -/
structure Fits (data : Data) (offset count : Int) : Prop where
  offered : data.Offers count
  offset_nonneg : 0 ≤ offset
  count_nonneg : 0 ≤ count
  inside : offset + count ≤ memorySize

end Data

namespace System

variable {ω : Type} [Observers ω] {data : Data} {offset : WholeNumber}
  {length : Option WholeNumber}

/-- Of data that fits, as many bytes as the count says are stored. -/
theorem setMemory_of_fits (fits : data.Fits offset.value (data.count length).value) :
    ∃ bytes, Data.numbers bytes = data.first (data.count length).value.toNat ∧
      (bytes.length : Int) = (data.count length).value ∧
      setMemory data offset length = setBytesAs offset (data.count length) bytes := by
  obtain ⟨offered, offset_nonneg, nonneg, inside⟩ := fits
  generalize counted : data.count length = count at *
  cases data with
  | fill n =>
    have small : count.value ≤ memorySize := by omega
    refine ⟨List.replicate count.value.toNat (UInt8.ofInt n), ?_, ?_, ?_⟩
    · rw [Data.numbers, List.map_replicate, toNat_byteOfInt, Int.toNat_of_nonneg (by omega)]
      rfl
    · rw [List.length_replicate, Int.toNat_of_nonneg nonneg]
    · rw [← fillBytes_of_count nonneg small, ← counted]
      rfl
  | items ns =>
    obtain ⟨small, enough⟩ := offered
    obtain ⟨bytes, rfl⟩ := exists_numbers_iff.mpr small
    have cut : cutAt bytes count.value = bytes.take count.value.toNat := by
      rw [cutAt, if_pos nonneg]
    refine ⟨bytes.take count.value.toNat, List.map_take, ?_, ?_⟩
    · rw [Data.numbers, List.length_map] at enough
      rw [List.length_take]
      omega
    · rw [Data.count, Data.numbers, List.length_map] at counted
      simp only [setMemory, bytesOf?_numbers]
      rw [counted, cut]

/-- What fits is stored, and its place is told. -/
theorem course_setMemory_of_fits (fits : data.Fits offset.value (data.count length).value)
    (m : Machine) : ∃ bytes,
      Data.numbers bytes = data.first (data.count length).value.toNat ∧
      (bytes.length : Int) = (data.count length).value ∧
      offset.value.toNat + bytes.length ≤ memorySize ∧
      let m' := { m with memory := m.memory.store offset.value.toNat bytes }
      (setMemory data offset length).course m =
        ⟨[⟨m', .event (.memory offset (data.count length))⟩], .ok (), m'⟩ := by
  obtain ⟨bytes, numbers, whole, store⟩ := setMemory_of_fits fits
  have nonneg := fits.offset_nonneg
  have inside := fits.inside
  have room : offset.value.toNat + bytes.length ≤ memorySize := by omega
  refine ⟨bytes, numbers, whole, room, ?_⟩
  rw [store, course_setBytesAs, if_pos ⟨nonneg, whole, room⟩]

/-- What does not fit is refused, and nothing is done. -/
theorem course_setMemory_of_not_fits
    (h : ¬ data.Fits offset.value (data.count length).value) (m : Machine) :
    ∃ cause, (setMemory data offset length).course m = ⟨[], .error cause, m⟩ := by
  generalize counted : data.count length = count at *
  have outside {bytes : List UInt8} (offered : (bytes.length : Int) = count.value →
      data.Offers count.value) :
      (setBytesAs offset count bytes).course m =
        ⟨[], .error (.writeOutside count offset.value), m⟩ := by
    rw [course_setBytesAs, if_neg]
    rintro ⟨nonneg, whole, inside⟩
    exact h ⟨offered whole, nonneg, by omega, by omega⟩
  cases data with
  | fill n =>
    have refused : ∃ cause, (fillBytes offset (UInt8.ofInt n) count).course m
        = ⟨[], .error cause, m⟩ := by
      unfold fillBytes
      split
      · exact ⟨_, rfl⟩
      · split
        · exact ⟨_, rfl⟩
        · split
          · exact ⟨_, outside fun _ => trivial⟩
          · exact ⟨_, rfl⟩
    rw [← counted] at refused
    exact refused
  | items ns =>
    simp only [setMemory]
    split
    · exact ⟨_, rfl⟩
    · next bytes hb =>
      obtain rfl := bytesOf?_eq_some_iff.mp hb
      rw [Data.count, Data.numbers, List.length_map] at counted
      rw [counted]
      refine ⟨_, outside fun whole => ⟨exists_numbers_iff.mp ⟨bytes, rfl⟩, ?_⟩⟩
      rw [Data.numbers, List.length_map]
      exact (length_cutAt_eq_iff.mp whole).2

theorem course_loadProgram_large {image : List UInt8} (large : programSize < image.length)
    (m : Machine) :
    (loadProgram image).course m = ⟨[], .error (.programTooLarge image.length), m⟩ := by
  rw [loadProgram, if_pos large]
  rfl

theorem yields_loadProgram {image : List UInt8} (small : image.length ≤ programSize)
    (m : Machine) : ∃ m',
      (loadProgram image).Yields m () { m' with pc := UInt16.ofNat programStart } ∧
        m.Stored m' programStart image := by
  have fits : programStart + image.length ≤ memorySize := by
    simp only [programSize, programEnd, programStart, memorySize] at small ⊢
    omega
  have nonneg : 0 ≤ (programStart : Int) := by decide
  refine ⟨_, ?_, m.stored_store nonneg fits⟩
  rw [loadProgram, if_neg (Nat.not_lt.mpr small)]
  exact .bind ⟨_, course_setBytes fits m⟩ (.bind ⟨_, course_setPc _ _⟩ ⟨_, course_report _ _⟩)

/-- **A store does all or nothing**: it succeeds where the data fits, and then the bytes are in
place, all else is as it was, and the place is told and nothing else; or it is refused, and then
nothing is done and nothing told. A program is refused where it is larger than its region, and then
nothing is done either; any other is loaded, and PC points at it. Observers are told of a store and
cannot write the machine themselves. -/
theorem stores_all_or_nothing (calm : Observers.Calm ω) (s : System ω) :
    let m := s.machine
    (∀ (data : Data) (offset : WholeNumber) (length : Option WholeNumber),
      let count := data.count length
      let after := run (setMemory data offset length) s
      let m' := after.2.machine
      (after.1 = .ok () ↔ data.Fits offset.value count.value) ∧
      (data.Fits offset.value count.value → ∃ bytes,
        Data.numbers bytes = data.first count.value.toNat ∧ (bytes.length : Int) = count.value ∧
        m.Stored m' offset.value bytes ∧
        m'.memory.toList = m.memory.toList.take offset.value.toNat ++ bytes ++
          m.memory.toList.drop (offset.value + count.value).toNat ∧
        after.2.bus = (s.bus.emit m' (.memory offset count)).2) ∧
      (¬ data.Fits offset.value count.value → ∃ cause, after = (.error cause, s))) ∧
    ∀ image : List UInt8,
      let after := run (loadProgram image) s
      (programSize < image.length → after = (.error (.programTooLarge image.length), s)) ∧
      (image.length ≤ programSize → after.1 = .ok () ∧ ∃ m', m.Stored m' programStart image ∧
        after.2.machine = { m' with pc := UInt16.ofNat programStart }) := by
  intro m
  constructor
  · intro data offset length count after m'
    have refused : ¬ data.Fits offset.value count.value → ∃ cause, after = (.error cause, s) := by
      intro h
      obtain ⟨cause, course⟩ := course_setMemory_of_not_fits h m
      exact ⟨cause, run_of_course calm course⟩
    refine ⟨⟨?accepted, ?succeeds⟩, ?stored, refused⟩
    case accepted =>
      intro ok
      by_contra h
      obtain ⟨cause, error⟩ := refused h
      rw [error] at ok
      cases ok
    case succeeds =>
      intro fits
      obtain ⟨bytes, -, -, -, course⟩ := course_setMemory_of_fits fits m
      exact congrArg Prod.fst (run_of_course calm course)
    case stored =>
      intro fits
      obtain ⟨bytes, numbers, whole, room, course⟩ := course_setMemory_of_fits fits m
      have ran : after = _ := run_of_course calm course
      have nonneg := fits.offset_nonneg
      have behind : (offset.value + count.value).toNat = offset.value.toNat + bytes.length := by
        have counted : (bytes.length : Int) = count.value := whole
        omega
      refine ⟨bytes, numbers, whole, ?_⟩
      rw [behind, show m' = _ from congrArg (·.2.machine) ran]
      exact ⟨m.stored_store nonneg room, m.memory.toList_store room, congrArg (·.2.bus) ran⟩
  · intro image after
    constructor
    · intro large
      exact run_of_course calm (course_loadProgram_large large m)
    · intro small
      obtain ⟨m', yields, stored⟩ := yields_loadProgram small m
      obtain ⟨result, machine⟩ := run_of_yields calm yields
      exact ⟨result, m', stored, machine⟩

/-- A value into the last byte, nothing behind it, a count from the end, and two programs. -/
theorem stores_all_or_nothing_edges :
    let s : System Transcript := ⟨.powerOn .unseeded, ⟨[⟨.monitor, none⟩], ⟨[]⟩, []⟩⟩
    let filled := run (setMemory (.fill (-2)) 4095 none) s
    let program (n : Nat) : List UInt8 := List.replicate n 7
    filled.1 = .ok () ∧ filled.2.machine.memory.get 4095 = 254 ∧
      filled.2.bus.observers.entries = [(.monitor, .memory 4095 1)] ∧
      (run (setMemory (.items []) 4096 none) s).1 = .ok () ∧
      (∃ cause, run (setMemory (.items [1, 2, 3]) 0 (some (-1 : Int))) s = (.error cause, s)) ∧
      (run (loadProgram (program 3264)) s).1 = .ok () ∧
      run (loadProgram (program 3265)) s = (.error (.programTooLarge 3265), s) := by
  intro s filled program
  obtain ⟨stores, loads⟩ := stores_all_or_nothing calm_transcript s
  obtain ⟨filling, fill, -⟩ := stores (.fill (-2)) 4095 none
  obtain ⟨nothing, -, -⟩ := stores (.items []) 4096 none
  obtain ⟨-, -, refused⟩ := stores (.items [1, 2, 3]) 0 (some (-1 : Int))
  have fits : (Data.fill (-2)).Fits 4095 1 := ⟨trivial, by decide, by decide, by decide⟩
  have none_fits : (Data.items []).Fits 4096 0 :=
    ⟨⟨nofun, by decide⟩, by decide, by decide, by decide⟩
  have length (n : Nat) : (program n).length = n := List.length_replicate
  obtain ⟨bytes, numbers, -, stored, -, bus⟩ := fill fits
  obtain ⟨b, rfl, hb⟩ : ∃ b, bytes = [b] ∧ (b.toNat : Int) = 254 := by
    obtain ⟨b, rest, rfl, hb, hr⟩ := List.map_eq_cons_iff.mp numbers
    exact ⟨b, by rw [List.map_eq_nil_iff.mp hr], hb⟩
  have byte : b = 254 := UInt8.toNat_inj.mp (Int.ofNat.inj hb)
  have large := (loads (program 3265)).1 (by rw [length]; decide)
  rw [length] at large
  exact ⟨filling.mpr fits, byte ▸ stored.each 0 Nat.one_pos, congrArg (·.observers.entries) bus,
    nothing.mpr none_fits, refused fun h => absurd h.count_nonneg (by decide),
    ((loads (program 3264)).2 (by rw [length]; decide)).1, large⟩

end System

end Chip8

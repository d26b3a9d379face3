import Chip8.Proofs.Blocks

/-!
# Writers that stop partway

A writer of several parts checks each part when its turn comes. If a part is refused, those before
it are done and told.

* A block that is longer than the rest of memory and all of memory behind it is refused once the
  rest of memory is written (`course_writeBlock_of_long`).
* A load of more registers than there are is refused once all of them are loaded
  (`course_regLoad_of_many`).
* `writers_stop_partway` says what each writer does, whether it comes to its end or not. Registers
  are dumped without a check of their count, and so always.
-/

namespace Chip8

theorem Machine.readBlock_succ (m : Machine) (address : Int) (length : Nat) :
    m.readBlock address (length + 1) =
      m.readBlock address length ++ [m.readByte (address + length)] := by
  simp only [readBlock, List.range_succ, List.map_append, List.map_cons, List.map_nil]

namespace System

open Chip8.Action

variable {ω : Type} [Observers ω] {address : Int} {bytes : List UInt8}

/-! ## Blocks -/

theorem course_writeBlock_of_long
    (long : 2 * memorySize < (cell address).val + bytes.length) (m : Machine) :
    let head := memorySize - (cell address).val
    ∃ m', (writeBlock address (Data.numbers bytes)).course m =
        ⟨[⟨m', .event (.memory (cell address).val head)⟩],
          .error (.writeOutside (bytes.length - head : Nat) 0), m'⟩ ∧
      m.Stored m' address (bytes.take head) := by
  intro head
  have beyond : memorySize < (cell address).val + bytes.length := by omega
  have cut : (cell address).val + head = memorySize := Nat.add_sub_of_le (cell address).isLt.le
  have fits : (cell address).val + (bytes.take head).length = memorySize := length_take_head beyond
  have few : (bytes.take head).length ≤ memorySize := by omega
  have length_head : (bytes.take head).length = head := by omega
  have first := course_setItems fits.le m
  rw [length_head] at first
  have second (m : Machine) : (setItems 0 (Data.numbers (bytes.drop head))).course m =
      ⟨[], .error (.writeOutside (bytes.length - head : Nat) 0), m⟩ := by
    simp only [setItems, bytesOf?_numbers, setBytes]
    rw [course_setBytesAs, if_neg, List.length_drop]
    · rfl
    · rintro ⟨-, -, fits⟩
      simp only [WholeNumber.value, List.length_drop] at fits
      omega
  refine ⟨_, ?_, (Machine.written_store rfl fits.le m).stored few⟩
  rw [writeBlock_of_beyond beyond, course_bind, first]
  exact congrArg (Course.behind _) (second _)

/-! ## Registers -/

theorem loadFrom_append (index : Nat) (l₁ l₂ : List UInt8) :
    loadFrom index (l₁ ++ l₂) =
      (do loadFrom index l₁; loadFrom (index + l₁.length : Nat) l₂) := by
  induction l₁ generalizing index with
  | nil => rfl
  | cons b rest ih =>
    have behind : loadFrom ((index : Int) + 1) (rest ++ l₂) = _ := ih (index + 1)
    have shift : index + (b :: rest).length = index + 1 + rest.length := by
      rw [List.length_cons]
      omega
    rw [List.cons_append, loadFrom, loadFrom, behind, shift, bind_assoc]
    rfl

theorem course_loadFrom_of_many (full : bytes.length = registerCount) (b : UInt8) (m : Machine) :
    ∃ l m', (loadFrom 0 (bytes ++ [b])).course m = ⟨l, .error (.index (.outside .buffer)), m'⟩ ∧
      m.Loaded m' 0 bytes ∧ l.map Moment.telling = loadTellings 0 registerCount := by
  have fits : 0 + bytes.length ≤ registerCount := by omega
  obtain ⟨l, m', course, loaded, told⟩ := course_loadFrom fits m
  have none_left : (loadFrom (0 + bytes.length : Nat) [b]).course m' =
      ⟨[], .error (.index (.outside .buffer)), m'⟩ := by
    rw [full]
    rfl
  refine ⟨l, m', ?_, loaded, full ▸ told⟩
  refine (congrArg (·.course m) (loadFrom_append 0 bytes [b])).trans ?_
  rw [course_bind, course, Course.andThen_ok, none_left, Course.behind_mk, List.append_nil]

/-- No more registers are loaded than there are. -/
theorem course_regLoad_of_many {n : Nat} (hn : registerCount ≤ n) (m : Machine) :
    ∃ l m', (regLoad n).course m = ⟨l, .error (.index (.outside .buffer)), m'⟩ ∧
      m.Loaded m' 0 (m.readBlock m.i.toNat registerCount) ∧
      l.map Moment.telling = loadTellings 0 registerCount := by
  obtain ⟨l, m', course, loaded, told⟩ := course_loadFrom_of_many
    (m.length_readBlock m.i.toNat registerCount) (m.readByte (m.i.toNat + registerCount)) m
  have count : min ((n : Int) + 1).toNat (registerCount + 1) = registerCount + 1 := by omega
  rw [← m.readBlock_succ, ← count] at course
  exact ⟨l, m', course, loaded, told⟩

/-- **Writers of several parts stop partway**: a block comes to its end where it is no longer than
the rest of memory and all of memory together; a longer one is refused, and then the rest of memory
is written and told. A dump always comes to its end. A load does so where it is of registers that
there are; else it is refused, and then all registers are loaded and told. -/
theorem writers_stop_partway (calm : Observers.Calm ω) (s : System ω) :
    let m := s.machine
    (∀ (address : Int) (bytes : List UInt8),
      let start := (cell address).val
      let head := memorySize - start
      let after := run (writeBlock address (Data.numbers bytes)) s
      let m' := after.2.machine
      (start + bytes.length ≤ 2 * memorySize → after.1 = .ok () ∧ m.Written m' address bytes) ∧
      (2 * memorySize < start + bytes.length →
        after.1 = .error (.writeOutside (bytes.length - head : Nat) 0) ∧
        m.Stored m' address (bytes.take head) ∧
        after.2.bus = (s.bus.emit m' (.memory start head)).2)) ∧
    ∀ n : Nat,
      (let after := run (regDump n) s
      after.1 = .ok () ∧ m.Stored after.2.machine m.i.toNat (m.v.toList.take (n + 1))) ∧
      let after := run (regLoad n) s
      let m' := after.2.machine
      (n < registerCount →
        after.1 = .ok () ∧ m.Loaded m' 0 (m.readBlock m.i.toNat (n + 1))) ∧
      (registerCount ≤ n →
        after.1 = .error (.index (.outside .buffer)) ∧
        m.Loaded m' 0 (m.readBlock m.i.toNat registerCount) ∧
        ∃ l : List Moment, l.map Moment.telling = loadTellings 0 registerCount ∧
          after.2.bus = l.foldl Bus.hear s.bus) := by
  intro m
  constructor
  · intro address bytes start head after m'
    constructor
    · intro fits
      obtain ⟨m', yields, written⟩ := yields_writeBlock fits m
      obtain ⟨result, rfl⟩ := run_of_yields calm yields
      exact ⟨result, written⟩
    · intro long
      obtain ⟨m₁, course, stored⟩ := course_writeBlock_of_long long m
      have ran : after = _ := run_of_course calm course
      simp only [m', ran]
      exact ⟨rfl, stored, rfl⟩
  · intro n
    refine ⟨?dump, ?load, ?overrun⟩
    case dump =>
      obtain ⟨m', yields, stored⟩ := yields_regDump n m
      obtain ⟨result, rfl⟩ := run_of_yields calm yields
      exact ⟨result, stored⟩
    case load =>
      intro few
      obtain ⟨l, m', course, loaded, -⟩ := course_regLoad few m
      obtain ⟨result, rfl⟩ := run_of_yields calm ⟨l, course⟩
      exact ⟨result, loaded⟩
    case overrun =>
      intro many
      obtain ⟨l, m', course, loaded, told⟩ := course_regLoad_of_many many m
      rw [run_of_course calm course]
      exact ⟨rfl, loaded, l, told, rfl⟩

/-- One register too many, and one byte too many: both writers have begun when they are refused. -/
theorem writers_stop_partway_overrun :
    let threes : Memory := Vector.replicate memorySize 3
    let s : System Transcript :=
      ⟨{ Machine.powerOn .unseeded with memory := threes }, ⟨[⟨.monitor, none⟩], ⟨[]⟩, []⟩⟩
    let bytes := List.replicate 4098 (7 : UInt8)
    let loaded := run (regLoad 16) s
    let written := run (writeBlock 4095 (Data.numbers bytes)) s
    loaded.1 = .error (.index (.outside .buffer)) ∧
      s.machine.v.get 0 = 0 ∧ loaded.2.machine.v.get 0 = 3 ∧
      written.1 = .error (.writeOutside 4097 0) ∧
      s.machine.memory.get 4095 = 3 ∧ written.2.machine.memory.get 4095 = 7 ∧
      written.2.bus.observers.entries = [(.monitor, .memory 4095 1)] := by
  intro threes s bytes loaded written
  have three (a : Fin memorySize) : s.machine.memory.get a = 3 := Vector.getElem_replicate _
  obtain ⟨blocks, registers⟩ := writers_stop_partway calm_transcript s
  obtain ⟨-, -, load⟩ := registers 16
  obtain ⟨unloaded, some_loaded, -⟩ := load (Nat.le_refl registerCount)
  have first := some_loaded.each 0 (by rw [Machine.length_readBlock]; decide) 0 rfl
  rw [Machine.getElem_readBlock] at first
  have length : bytes.length = 4098 := List.length_replicate
  have start : (cell 4095).val = 4095 := by decide
  have cell_last : cell ((4095 : Int) + (0 : Nat)) = 4095 := by decide
  obtain ⟨-, write⟩ := blocks 4095 bytes
  rw [length, start] at write
  obtain ⟨unwritten, stored, bus⟩ := write (by decide)
  have last := stored.each 0 (by rw [List.length_take, length]; decide)
  rw [List.getElem_take, List.getElem_replicate, cell_last] at last
  simp only [written]
  exact ⟨unloaded, rfl, first.trans (three _), unwritten, three _, last,
    congrArg (·.observers.entries) bus⟩

end System

end Chip8

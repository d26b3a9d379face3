import Chip8.Opcode.Listing
import Chip8.Proofs.Blocks
import Chip8.Proofs.CallReturn
import Chip8.Proofs.StackFault

/-!
# Listings

What a listing says of an address is what the fetch there says.

* `Machine.listing_eq`: each row is the instruction that is fetched with PC at its address, also
  beyond the end of memory.
* `NumberStore.scan_ofBytes`: bytes have a row for each two of them. Those of a memory give the
  listing of the machine (`scan_memory`), and the opcodes put together give the bytes back
  (`flatMap_packed_scan`).
* `NumberStore.ofWord_of_mem_scanFrom`: items need not be bytes, but every row decodes its opcode.
-/

namespace Chip8

/-- The row of an instruction at an address. -/
def ListingRow.ofDecoded (address : Int) (d : Decoded) : ListingRow :=
  ⟨address, d.opcode.toNat, d.text⟩

/-- The opcode as bytes, the high one first. -/
def ListingRow.packed (r : ListingRow) : List UInt8 := System.wordBytes (UInt16.ofInt r.opcode)

/-- The machine with PC at an address. -/
def Machine.atAddress (m : Machine) (a : Int) : Machine := { m with pc := UInt16.ofInt a }

def Computer.atAddress {ω : Type} (c : Computer ω) (a : Int) : Computer ω :=
  { c with system := { c.system with machine := c.system.machine.atAddress a } }

theorem ListingRow.ofWord_toNat (a : Int) (w : UInt16) :
    ListingRow.ofWord a w.toNat = .ofDecoded a (.ofOpcode w) := by
  rw [ofWord, Decoded.ofWord, wordOfInt_toNat]
  rfl

theorem mem_listingAddresses {first last a : Int} (h : a ∈ listingAddresses first last) :
    first ≤ a ∧ a + 1 < last := by
  obtain ⟨k, hk, rfl⟩ := List.mem_map.mp h
  have counted := List.mem_range.mp hk
  rw [listingLength] at counted
  omega

namespace Machine

theorem readWord_congr {a b : Int} (same : a % memorySize = b % memorySize) (m : Machine) :
    m.readWord a = m.readWord b := by
  have high : cell a = cell b := by simpa using cell_add_congr same 0
  have low : cell (a + 1) = cell (b + 1) := cell_add_congr same 1
  simp only [readWord, readByte, high, low]

/-- PC holds sixteen bits of an address, and memory heeds only twelve of them. -/
theorem fetched_atAddress (m : Machine) (a : Int) :
    Computer.fetched (m.atAddress a) = .ofOpcode (m.readWord a) := by
  have word : m.readWord (m.atAddress a).pc.toNat = m.readWord a := by
    apply readWord_congr
    rw [atAddress, toNat_wordOfInt, memorySize]
    omega
  exact congrArg Decoded.ofOpcode word

theorem listing_eq (m : Machine) (first last : Int) :
    m.listing first last = (listingAddresses first last).map fun a =>
      .ofDecoded a (Computer.fetched (m.atAddress a)) := by
  apply List.map_congr_left
  intro a _
  rw [ListingRow.ofWord_toNat, fetched_atAddress]

end Machine

namespace NumberStore

/-- A store of bytes. -/
def ofBytes (kind : StoreKind) (bytes : List UInt8) : NumberStore :=
  ⟨kind, (bytes.map fun b => (b.toNat : Int)).toArray⟩

/-- The word that two bytes make up, the high one first. -/
def wordOf (high low : UInt8) : UInt16 := high.toUInt16 <<< 8 ||| low.toUInt16

theorem toNat_shifted (b : UInt8) : (b.toUInt16 <<< 8).toNat = b.toNat * 256 := by
  have hb := b.toNat_lt
  simp [Nat.shiftLeft_eq]
  omega

theorem joinBits_bytes (high low : UInt8) :
    joinBits (high.toNat * 256) low.toNat = (wordOf high low).toNat := by
  rw [wordOf, UInt16.toNat_or, toNat_shifted, UInt8.toNat_toUInt16]
  rfl

theorem toNat_wordOf (high low : UInt8) :
    (wordOf high low).toNat = high.toNat * 256 + low.toNat := by
  rw [wordOf, UInt16.toNat_or, toNat_shifted, UInt8.toNat_toUInt16, Nat.mul_comm]
  exact (Nat.two_pow_add_eq_or_of_lt (i := 8) low.toNat_lt _).symm

theorem wordBytes_wordOf (high low : UInt8) : System.wordBytes (wordOf high low) = [high, low] := by
  have value := toNat_wordOf high low
  have hh := high.toNat_lt
  have hl := low.toNat_lt
  have first : (wordOf high low >>> 8).toUInt8 = high := by
    apply UInt8.toNat_inj.mp
    simp [Nat.shiftRight_eq_div_pow, value]
    omega
  have second : (wordOf high low).toUInt8 = low := by
    apply UInt8.toNat_inj.mp
    simp [value]
  rw [System.wordBytes, first, second]

variable {kind : StoreKind} {bytes : List UInt8}

theorem item_ofBytes (size : fitsWord bytes.length) {i : Nat} (hi : i < bytes.length) :
    (ofBytes kind bytes).item i = .ok bytes[i].toNat := by
  have count : (ofBytes kind bytes).items.size = bytes.length := by simp [ofBytes]
  have small : (ofBytes kind bytes).items.size < 0x8000000000000000 := by
    simp only [fitsWord, Bool.and_eq_true, decide_eq_true_eq] at size
    omega
  have found := resolveIndex_natCast (ofBytes kind bytes).kind small ⟨i, by omega⟩
  rw [item, found]
  simp [ofBytes, bind, Except.bind, pure, Except.pure]

/-- The word at a place of a list of bytes. -/
def wordAt (bytes : List UInt8) (i : Nat) : UInt16 :=
  wordOf (bytes.getD i 0) (bytes.getD (i + 1) 0)

theorem word_ofBytes (size : fitsWord bytes.length) {i : Nat} (hi : i + 1 < bytes.length) :
    (ofBytes kind bytes).word i = .ok (wordAt bytes i).toNat := by
  have high : (ofBytes kind bytes).item i = .ok bytes[i].toNat :=
    item_ofBytes size (Nat.lt_of_succ_lt hi)
  have low : (ofBytes kind bytes).item (i + 1) = .ok bytes[i + 1].toNat := item_ofBytes size hi
  rw [word, high, low, wordAt, List.getD_eq_getElem _ _ (Nat.lt_of_succ_lt hi),
    List.getD_eq_getElem _ _ hi]
  exact congrArg Except.ok (joinBits_bytes _ _)

/-- A scan that finds a word at each of its indices goes to its end. -/
theorem scanFrom_of_words {s : NumberStore} {first : Int} {f : Int → Int} (count : Nat) :
    ∀ k : Nat, (∀ j : Nat, k ≤ j → j < k + count →
        s.word (first + 2 * j) = .ok (f (first + 2 * j))) →
      s.scanFrom first k count = ((List.range' k count).map fun (j : Nat) =>
        .ofWord (first + 2 * j) (f (first + 2 * j)), none) := by
  induction count with
  | zero => exact fun _ _ => rfl
  | succ count ih =>
    intro k words
    have here := words k (Nat.le_refl k) (by omega)
    have later := ih (k + 1) fun j above below => words j (by omega) (by omega)
    rw [scanFrom, here, List.range'_succ, List.map_cons]
    dsimp only
    rw [later]

theorem scan_of_words {s : NumberStore} {first last : Int} {f : Int → Int}
    (words : ∀ a ∈ listingAddresses first last, s.word a = .ok (f a)) :
    s.scan first last = ((listingAddresses first last).map fun a => .ofWord a (f a), none) := by
  have each (j : Nat) (_ : 0 ≤ j) (below : j < 0 + listingLength first last) :
      s.word (first + 2 * j) = .ok (f (first + 2 * j)) := by
    apply words
    exact List.mem_map.mpr ⟨j, List.mem_range.mpr (by omega), rfl⟩
  rw [scan, scanFrom_of_words _ 0 each, listingAddresses, List.map_map, List.range_eq_range']
  rfl

theorem scan_ofBytes (size : fitsWord bytes.length) {first last : Int} (start : 0 ≤ first)
    (ends : last ≤ bytes.length) :
    (ofBytes kind bytes).scan first last = ((listingAddresses first last).map fun a =>
      .ofWord a (wordAt bytes a.toNat).toNat, none) := by
  apply scan_of_words
  intro a ha
  have bounds := mem_listingAddresses ha
  obtain ⟨i, rfl⟩ := Int.eq_ofNat_of_zero_le (show 0 ≤ a by omega)
  exact word_ofBytes size (by omega)

/-- The bytes of a memory give the listing of the machine. -/
theorem scan_memory (kind : StoreKind) (m : Machine) {first last : Int} (start : 0 ≤ first)
    (ends : last ≤ memorySize) :
    (ofBytes kind m.memory.toList).scan first last = (m.listing first last, none) := by
  have length : m.memory.toList.length = memorySize := Vector.length_toList
  have byte (j : Nat) (hj : j < memorySize) : m.memory.toList.getD j 0 = m.readByte (j : Nat) := by
    have place : cell (j : Nat) = ⟨j, hj⟩ := Fin.ext (val_cell_of_lt hj)
    rw [Machine.readByte, place, List.getD_eq_getElem _ _ (by omega), Vector.getElem_toList]
    rfl
  rw [scan_ofBytes (by rw [length]; rfl) start (by rw [length]; exact ends), Machine.listing]
  congr 1
  apply List.map_congr_left
  intro a ha
  have bounds := mem_listingAddresses ha
  obtain ⟨i, rfl⟩ := Int.eq_ofNat_of_zero_le (show 0 ≤ a by omega)
  have high := byte i (by omega)
  have low : m.memory.toList.getD (i + 1) 0 = m.readByte (i + 1) := byte (i + 1) (by omega)
  rw [Int.toNat_natCast, wordAt, high, low]
  rfl

/-- Bytes two by two, a last one without another left out. -/
theorem flatMap_pairs : ∀ d : List UInt8,
    ((List.range (d.length / 2)).flatMap fun k => [d.getD (2 * k) 0, d.getD (2 * k + 1) 0])
      = if d.length % 2 = 1 then d.dropLast else d
  | [] => rfl
  | [_] => by simp
  | a :: b :: d => by
    have half : (a :: b :: d).length / 2 = d.length / 2 + 1 := by
      simp only [List.length_cons]
      omega
    have odd : (a :: b :: d).length % 2 = d.length % 2 := by
      simp only [List.length_cons]
      omega
    have rest : ((List.range (d.length / 2)).flatMap fun k =>
        [(a :: b :: d).getD (2 * (k + 1)) 0, (a :: b :: d).getD (2 * (k + 1) + 1) 0])
          = if d.length % 2 = 1 then d.dropLast else d := flatMap_pairs d
    rw [half, List.range_succ_eq_map, List.flatMap_cons, List.flatMap_map, odd, rest]
    by_cases last : d.length % 2 = 1
    · have more : d ≠ [] := by
        rintro rfl
        cases last
      rw [if_pos last, if_pos last, List.dropLast_cons_of_ne_nil (by simp),
        List.dropLast_cons_of_ne_nil more]
      rfl
    · rw [if_neg last, if_neg last]
      rfl

theorem packed_ofWord (a : Int) (high low : UInt8) :
    (ListingRow.ofWord a (wordOf high low).toNat).packed = [high, low] := by
  rw [ListingRow.packed, ListingRow.ofWord, wordOfInt_toNat, wordBytes_wordOf]

/-- The opcodes of bytes, put together, are the bytes. -/
theorem flatMap_packed_scan (kind : StoreKind) {d : List UInt8} (size : fitsWord d.length) :
    ((ofBytes kind d).scan 0 d.length).1.flatMap ListingRow.packed
      = if d.length % 2 = 1 then d.dropLast else d := by
  have count : listingLength 0 d.length = d.length / 2 := by
    rw [listingLength]
    omega
  have rows : ((ofBytes kind d).scan 0 d.length).1 =
      (List.range (d.length / 2)).map fun k => .ofWord (2 * k : Nat) (wordAt d (2 * k)).toNat := by
    rw [scan_ofBytes size (Int.le_refl 0) (Int.le_refl _), listingAddresses, count, List.map_map]
    apply List.map_congr_left
    intro k _
    have place : 0 + 2 * (k : Int) = (2 * k : Nat) := by omega
    rw [Function.comp_apply, place, Int.toNat_natCast]
  rw [rows, List.flatMap_map, ← flatMap_pairs]
  simp only [wordAt, packed_ofWord]

/-- Each row says what its opcode is the word of. -/
theorem ofWord_of_mem_scanFrom {s : NumberStore} {first : Int} {r : ListingRow} (count : Nat) :
    ∀ k : Nat, r ∈ (s.scanFrom first k count).1 → r = .ofWord r.address r.opcode := by
  induction count with
  | zero => exact fun _ h => absurd h List.not_mem_nil
  | succ count ih =>
    intro k h
    rw [scanFrom] at h
    dsimp only at h
    split at h
    · exact absurd h List.not_mem_nil
    · rcases List.mem_cons.mp h with rfl | later
      · rfl
      · exact ih (k + 1) later

end NumberStore

/-- **Listings, fetches and bytes agree.** The row of an address is the instruction that a fetch
with PC there gives, and that a step there returns if it returns one. A store of bytes, which has
less than 2⁶³ of them, is listed to its end. -/
theorem listings_agree {ω : Type} [Observers ω] (c : Computer ω) (first last : Int) :
    let m := c.system.machine
    ((m.listing first last).length : Int) = max 0 ((last - first) / 2) ∧
    (∀ (k : Nat) (hk : k < (m.listing first last).length),
      let a := first + 2 * k
      let d := Computer.fetched (m.atAddress a)
      (m.listing first last)[k] = .ofDecoded a d ∧
      (∀ d' c', Computer.perform Computer.step (c.atAddress a) = (.ok d', c') → d' = d) ∧
      (Observers.Calm ω → ¬ (m.atAddress a).Overflows → ¬ (m.atAddress a).Underflows →
        (Computer.perform Computer.step (c.atAddress a)).1 = .ok d)) ∧
    (∀ kind, 0 ≤ first → last ≤ memorySize →
      (NumberStore.ofBytes kind m.memory.toList).scan first last = (m.listing first last, none)) ∧
    (∀ kind (d : List UInt8), fitsWord d.length →
      let scan := (NumberStore.ofBytes kind d).scan 0 d.length
      scan.2 = none ∧ (∀ r ∈ scan.1, 0 ≤ r.opcode ∧ r.opcode < 65536) ∧
        scan.1.flatMap ListingRow.packed = if d.length % 2 = 1 then d.dropLast else d) ∧
    ∀ s : NumberStore, ∀ r ∈ (s.scan first last).1,
      r.text = (Decoded.ofOpcode (UInt16.ofNat (r.opcode % 65536).toNat)).text := by
  intro m
  have length : ((m.listing first last).length : Int) = max 0 ((last - first) / 2) := by
    rw [Machine.listing_eq, List.length_map, listingAddresses, List.length_map, List.length_range,
      listingLength]
    omega
  refine ⟨length, ?_, fun kind start ends => NumberStore.scan_memory kind m start ends, ?_, ?_⟩
  · intro k hk a d
    have row : (m.listing first last)[k] = .ofDecoded a d := by
      simp only [Machine.listing_eq, listingAddresses, List.getElem_map, List.getElem_range]
      rfl
    refine ⟨row, ?_, ?_⟩
    · intro d' c' stepped
      exact (Computer.step_eq_ok stepped).1
    · intro calm overflows underflows
      obtain ⟨d', ok⟩ := Computer.perform_step_ok (c := c.atAddress a) calm overflows underflows
      rw [ok, (Computer.step_eq_ok (Prod.ext ok rfl)).1]
      rfl
  · intro kind d size scan
    have opcodes : scan = ((listingAddresses 0 d.length).map fun a =>
        .ofWord a (NumberStore.wordAt d a.toNat).toNat, none) :=
      NumberStore.scan_ofBytes size (Int.le_refl 0) (Int.le_refl _)
    refine ⟨congrArg Prod.snd opcodes, ?_, NumberStore.flatMap_packed_scan kind size⟩
    rw [opcodes]
    intro r hr
    obtain ⟨a, -, rfl⟩ := List.mem_map.mp hr
    have small := (NumberStore.wordAt d a.toNat).toNat_lt
    simp only [ListingRow.ofWord]
    omega
  · intro s r hr
    have row := NumberStore.ofWord_of_mem_scanFrom _ 0 hr
    have low : UInt16.ofInt r.opcode = UInt16.ofNat (r.opcode % 65536).toNat := by
      apply UInt16.toNat_inj.mp
      rw [toNat_wordOfInt, UInt16.toNat_ofNat']
      omega
    calc
      r.text = (ListingRow.ofWord r.address r.opcode).text := congrArg ListingRow.text row
      _ = (Decoded.ofOpcode (UInt16.ofInt r.opcode)).text := rfl
      _ = (Decoded.ofOpcode (UInt16.ofNat (r.opcode % 65536).toNat)).text := by rw [low]

/-- A row of the last byte of memory and the first, a row of the last two, and a byte left over. -/
theorem listings_agree_across :
    let memory : Memory := ((Vector.replicate memorySize 0).set 0xFFF 0x60).set 0 0x0A
    let bus : Bus Transcript := ⟨[⟨.monitor, none⟩], ⟨[]⟩, []⟩
    let m : Machine := { Machine.powerOn .unseeded with memory := memory }
    let c : Computer Transcript := { Computer.fresh bus with system := ⟨m, bus⟩ }
    let d := Computer.fetched (m.atAddress 4095)
    d = .ofOpcode 0x600A ∧ m.listing 4095 4097 = [.ofDecoded 4095 d] ∧
      (Computer.perform Computer.step (c.atAddress 4095)).1 = .ok d ∧
      (NumberStore.ofBytes .bytes memory.toList).scan 4094 4096 = (m.listing 4094 4096, none) ∧
      ((NumberStore.ofBytes .buffer [0x60, 0x0A, 0xD0]).scan 0 3).1.flatMap ListingRow.packed
        = [0x60, 0x0A] := by
  intro memory bus m c d
  have word : m.readWord 4095 = 0x600A := by decide +kernel
  have overflows : ¬ (m.atAddress 4095).Overflows := fun h => absurd h.1 (by decide +kernel)
  have underflows : ¬ (m.atAddress 4095).Underflows := fun h => absurd h.1 (by decide +kernel)
  obtain ⟨length, rows, -, bytes, -⟩ := listings_agree c 4095 4097
  obtain ⟨-, -, memories, -⟩ := listings_agree c 4094 4096
  have one : (m.listing 4095 4097).length = 1 := Int.ofNat_inj.mp length
  obtain ⟨row, -, steps⟩ := rows 0 (by rw [one]; exact Nat.zero_lt_one)
  obtain ⟨-, -, packed⟩ := bytes .buffer [0x60, 0x0A, 0xD0] rfl
  have listed : m.listing 4095 4097 = [.ofDecoded 4095 d] := by
    apply List.ext_getElem one
    intro k hk _
    obtain rfl : k = 0 := by omega
    exact row
  exact ⟨(m.fetched_atAddress 4095).trans (congrArg _ word), listed,
    steps calm_transcript overflows underflows, memories .bytes (by decide) (by decide), packed⟩

end Chip8

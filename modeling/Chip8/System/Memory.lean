import Chip8.System.Basic

/-!
# Writing memory

* `setBytes` stores bytes that fit between an offset and the end of memory, all or none.
  `setBytesAs` does so under an offset and a length as they were given; the notification
  repeats both, and a length that is not that of the bytes is refused.
* `setMemory` takes a list of numbers, cut to a length if one is given, or a value to fill with;
  a fill is refused for a length beyond words or beyond `roomSize` before its place is looked at.
* `writeBlock` goes on from the end of memory at its start, in two parts.
-/

namespace Chip8

/-- What is to be stored. -/
inductive Data where
  /-- One value, over and over. -/
  | fill (n : Int)
  /-- A list of numbers, each of which must be a byte. -/
  | items (ns : List Int)

def Data.numbers (bytes : List UInt8) : List Int := bytes.map fun b => (b.toNat : Int)

def Data.ofBytes (bytes : List UInt8) : Data := .items (numbers bytes)

/-- The list up to a place counted from either end. -/
def cutAt {α : Type} (l : List α) (n : Int) : List α :=
  l.take (if 0 ≤ n then n.toNat else (l.length + n).toNat)

def byteOf? (n : Int) : Option UInt8 :=
  if 0 ≤ n ∧ n < 256 then some (UInt8.ofNat n.toNat) else none

theorem byteOf?_toNat (b : UInt8) : byteOf? (b.toNat : Int) = some b := by
  have h := b.toNat_lt
  have hb : (0 : Int) ≤ (b.toNat : Int) ∧ (b.toNat : Int) < 256 := by omega
  rw [byteOf?, if_pos hb]
  simp

/-- Numbers as bytes, if all of them are. -/
def bytesOf? (ns : List Int) : Option (List UInt8) := ns.mapM byteOf?

theorem bytesOf?_numbers (bytes : List UInt8) : bytesOf? (Data.numbers bytes) = some bytes := by
  induction bytes with
  | nil => rfl
  | cons b rest ih =>
    simp only [bytesOf?, Data.numbers] at ih
    simp [bytesOf?, Data.numbers, byteOf?_toNat, ih]

namespace System

/-- Bytes are stored at an offset, if they fit and their count is the length. -/
def setBytesAs (offset length : WholeNumber) (bytes : List UInt8) : Action Unit := do
  if 0 ≤ offset.value ∧ (bytes.length : Int) = length.value
      ∧ offset.value.toNat + bytes.length ≤ memorySize then
    change fun m => { m with memory := m.memory.store offset.value.toNat bytes }
    notify (.memory offset length)
  else refuse (.writeOutside length offset.value)

/-- Bytes are stored at an offset, if they fit. -/
def setBytes (offset : Int) (bytes : List UInt8) : Action Unit :=
  setBytesAs offset bytes.length bytes

/-- Numbers are stored at an offset, if they are bytes and fit. -/
def setItems (offset : Int) (ns : List Int) : Action Unit := do
  match bytesOf? ns with
  | some bytes => setBytes offset bytes
  | none => refuse .noByte

/-- One byte is stored a number of times from an offset on, if it fits. The count must be one
that can be held before it is compared with memory. -/
def fillBytes (offset : WholeNumber) (b : UInt8) (length : WholeNumber) : Action Unit := do
  if !fitsWord length.value then refuse .countTooWide
  else if roomSize ≤ length.value then refuse .noRoom
  else if length.value ≤ memorySize then
    setBytesAs offset length (List.replicate length.value.toNat b)
  else refuse (.writeOutside length offset.value)

/-- Data is stored at an offset. Without a length a list goes in whole and a value once. -/
def setMemory (data : Data) (offset : WholeNumber) (length : Option WholeNumber) :
    Action Unit := do
  match data with
  | .fill n => fillBytes offset (UInt8.ofInt n) (length.getD 1)
  | .items ns =>
    match bytesOf? ns with
    | none => refuse .noByte
    | some bytes =>
      let length := length.getD bytes.length
      setBytesAs offset length (cutAt bytes length.value)

/-- Numbers are stored at an address, going on at the start of memory after its end. -/
def writeBlock (address : Int) (ns : List Int) : Action Unit := do
  let start := (cell address).val
  if start + ns.length ≤ memorySize then setItems start ns
  else
    let head := memorySize - start
    setItems start (ns.take head)
    setItems 0 (ns.drop head)

end System

end Chip8

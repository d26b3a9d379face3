import Chip8.Picture.Framebuffer
import Chip8.Random.Twister
import Chip8.State.MemoryMap

/-!
# Machine states

Memory, registers, pending key, timer cycle and random generator of a machine, and
what can be read from them.

* Addresses are integers and count modulo 4096; a word has its high byte first.
* `getElem_store`: storing bytes changes the addresses they go to and no others.
* The display is a framebuffer over the last 256 bytes of memory, and `Machine.pixel` is a bit
  of these.
-/

namespace Chip8

abbrev VIndex := Fin registerCount

abbrev Key := Fin keyCount

abbrev Memory := Vector UInt8 memorySize

structure Machine where
  memory : Memory
  v : Vector UInt8 registerCount
  i : UInt16
  pc : UInt16
  sp : UInt8
  dt : UInt8
  st : UInt8
  /-- The key that is held, if any. -/
  key : Option Key
  /-- Instructions since the last timer tick. -/
  cycle : WholeNumber
  generator : Twister

def cell (address : Int) : Fin memorySize :=
  ⟨(address % memorySize).toNat, by simp only [memorySize]; omega⟩

namespace Memory

/-- The memory with bytes stored from an address on; those beyond the end are lost. -/
def store (memory : Memory) (start : Nat) : List UInt8 → Memory
  | [] => memory
  | b :: rest => store (memory.setIfInBounds start b) (start + 1) rest

theorem getElem_store (memory : Memory) (start : Nat) (bytes : List UInt8) {a : Nat}
    (ha : a < memorySize) :
    (store memory start bytes)[a] =
      if h : start ≤ a ∧ a - start < bytes.length then bytes[a - start] else memory[a] := by
  induction bytes generalizing memory start with
  | nil => simp [store]
  | cons b rest ih =>
    rw [store, ih]
    by_cases h1 : a = start
    · subst h1
      rw [dif_neg (by omega), dif_pos ⟨Nat.le_refl _, by simp⟩]
      simp
    · by_cases h2 : start + 1 ≤ a ∧ a - (start + 1) < rest.length
      · have h3 : start ≤ a ∧ a - start < (b :: rest).length := by
          simp only [List.length_cons]; omega
        rw [dif_pos h2, dif_pos h3]
        obtain ⟨k, hk⟩ : ∃ k, a - start = k + 1 := ⟨a - start - 1, by omega⟩
        have hk' : a - (start + 1) = k := by omega
        simp only [hk, hk', List.getElem_cons_succ]
      · have h3 : ¬ (start ≤ a ∧ a - start < (b :: rest).length) := by
          simp only [List.length_cons]; omega
        rw [dif_neg h2, dif_neg h3, Vector.getElem_setIfInBounds_ne _ (Ne.symm h1)]

end Memory

/-- The generator of a machine whose seed is not known; its draws mean nothing. -/
def Twister.unseeded : Twister := ⟨Vector.replicate twisterSize 0, 0⟩

/-- The generator for a seed, if there is one. -/
def Twister.ofSeed? : Option Int → Twister
  | some seed => ofSeed seed
  | none => unseeded

namespace Machine

/-- The state at power-on: the font in zeroed memory, and all registers zero. -/
def powerOn (generator : Twister) : Machine where
  memory := Memory.store (Vector.replicate memorySize 0) fontStart font
  v := Vector.replicate registerCount 0
  i := 0
  pc := 0
  sp := 0
  dt := 0
  st := 0
  key := none
  cycle := 0
  generator := generator

def readByte (m : Machine) (address : Int) : UInt8 := m.memory.get (cell address)

def readWord (m : Machine) (address : Int) : UInt16 :=
  (m.readByte address).toUInt16 <<< 8 ||| (m.readByte (address + 1)).toUInt16

def readBlock (m : Machine) (address : Int) (length : Nat) : List UInt8 :=
  (List.range length).map fun (k : Nat) => m.readByte (address + k)

/-- The address of the next instruction, not reduced. -/
def nextPc (m : Machine) : Nat := m.pc.toNat + instructionSize

/-- The address after the next instruction, not reduced. -/
def skipPc (m : Machine) : Nat := m.pc.toNat + skipSize

/-- The return addresses on the stack, oldest first. -/
def stackFrames (m : Machine) : List UInt16 :=
  (List.range ((m.sp.toNat + 1) / 2)).map fun (k : Nat) => m.readWord (stackStart + 2 * k)

end Machine

/-- The bytes of the display in memory. -/
def displayWindow : Window memorySize := ⟨displayStart, displaySize, by decide⟩

/-- The display byte that holds a pixel. -/
def pixelByte (x : Fin displayWidth) (y : Fin displayHeight) : Fin displayWindow.size :=
  ⟨(y * displayWidth + x) / 8, by
    have := x.isLt; have := y.isLt
    simp only [displayWindow, displaySize, displayEnd, displayStart, displayWidth,
      displayHeight] at *
    omega⟩

/-- The place of a pixel in its byte. -/
def pixelPlace (x : Fin displayWidth) (y : Fin displayHeight) : Fin 8 :=
  ⟨(y * displayWidth + x) % 8, by omega⟩

namespace Machine

def pixel (m : Machine) (x : Fin displayWidth) (y : Fin displayHeight) : Bool :=
  displayWindow.bit m.memory (pixelByte x y) (pixelPlace x y)

/-- The state with a pixel of the display replaced. -/
def setPixel (m : Machine) (x : Fin displayWidth) (y : Fin displayHeight) (v : Bool) : Machine :=
  { m with memory := displayWindow.setBit m.memory (pixelByte x y) (pixelPlace x y) v }

def display (m : Machine) : Framebuffer memorySize where
  plane := .ofWindow m.memory displayWindow
  width := displayWidth
  given := displayWidth
  given_value := rfl
  width_pos := by decide
  width_dvd := by simp only [BitPlane.length, BitPlane.ofWindow, displayWindow]; decide

def litCount (m : Machine) : Nat := m.display.litCount

end Machine

end Chip8

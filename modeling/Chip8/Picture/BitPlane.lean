import Chip8.Picture.Bits
import Chip8.Picture.Position

/-!
# Bit planes

The bits of a window on a byte buffer, numbered from the most significant bit of its first byte.

* `Window` is a stretch of a buffer; `Window.slice` takes bounds counted from either end.
* `Window.bit` and `Window.setBit` are total on the bits of the window.
* `BitPlane.get` and `BitPlane.set` take any integer: negative ones count from the end.
* `Window.bit_setBit` and `Window.getElem_setBit_of_outside`: setting a bit changes
  that bit only, and no byte outside the window.
-/

namespace Chip8

/-- A stretch of a buffer of `n` bytes. -/
structure Window (n : Nat) where
  start : Nat
  size : Nat
  fits : start + size ≤ n

namespace Window

variable {n : Nat}

def whole (n : Nat) : Window n := ⟨0, n, by omega⟩

/-- A bound counted from either end, kept inside a buffer of `n` bytes. -/
def clamp (n : Nat) (i : Int) : Nat := if i < 0 then (i + n).toNat else min i.toNat n

/-- The stretch from one bound up to another; it is empty where they cross. -/
def slice (n : Nat) (first last : Int) : Window n :=
  ⟨clamp n first, clamp n last - clamp n first, by unfold clamp; split <;> split <;> omega⟩

/-- The place in the buffer of a byte of the window. -/
def place (w : Window n) (k : Fin w.size) : Fin n :=
  ⟨w.start + k, by have := w.fits; have := k.isLt; omega⟩

def byte (w : Window n) (buffer : Vector UInt8 n) (k : Fin w.size) : UInt8 := buffer[w.place k]

/-- The buffer with a byte of the window replaced. -/
def setByte (w : Window n) (buffer : Vector UInt8 n) (k : Fin w.size) (b : UInt8) :
    Vector UInt8 n :=
  buffer.set (w.place k) b (w.place k).isLt

def bytes (w : Window n) (buffer : Vector UInt8 n) : List UInt8 :=
  (List.finRange w.size).map (w.byte buffer)

/-- The bit at a place of a byte of the window. -/
def bit (w : Window n) (buffer : Vector UInt8 n) (k : Fin w.size) (j : Fin 8) : Bool :=
  bitAt (w.byte buffer k) j

/-- The buffer with the bit at a place of a byte of the window replaced. -/
def setBit (w : Window n) (buffer : Vector UInt8 n) (k : Fin w.size) (j : Fin 8) (v : Bool) :
    Vector UInt8 n :=
  w.setByte buffer k (withBit (w.byte buffer k) j v)

theorem byte_setByte (w : Window n) (buffer : Vector UInt8 n) (k l : Fin w.size) (b : UInt8) :
    w.byte (w.setByte buffer k b) l = if l = k then b else w.byte buffer l := by
  simp only [byte, setByte, Fin.getElem_fin]
  by_cases h : l = k
  · subst h; simp
  · have hne : (w.place k : Nat) ≠ w.place l := by
      intro e; apply h; ext; simp only [place] at e; omega
    rw [if_neg h, Vector.getElem_set_ne _ _ hne]

theorem bit_setBit (w : Window n) (buffer : Vector UInt8 n) (k l : Fin w.size) (j i : Fin 8)
    (v : Bool) :
    w.bit (w.setBit buffer k j v) l i = if l = k ∧ i = j then v else w.bit buffer l i := by
  unfold bit setBit
  rw [byte_setByte]
  by_cases h : l = k
  · subst h
    rw [if_pos rfl, bitAt_withBit]
    simp
  · rw [if_neg h, if_neg (fun e => h e.1)]

theorem getElem_setBit_of_outside (w : Window n) (buffer : Vector UInt8 n) (k : Fin w.size)
    (j : Fin 8) (v : Bool) {a : Nat} (ha : a < n) (h : a < w.start ∨ w.start + w.size ≤ a) :
    (w.setBit buffer k j v)[a] = buffer[a] := by
  have := k.isLt
  unfold setBit setByte
  rw [Vector.getElem_set_ne _ _ (by simp only [place]; omega)]

end Window

/-- A bit plane over a window on a buffer. -/
structure BitPlane (n : Nat) where
  buffer : Vector UInt8 n
  window : Window n
  /-- Whether the plane owns its buffer or sees part of another one; only messages tell. -/
  kind : StoreKind

namespace BitPlane

variable {n : Nat}

/-- The plane over a whole buffer of its own. -/
def ofBuffer (buffer : Vector UInt8 n) : BitPlane n := ⟨buffer, Window.whole n, .buffer⟩

/-- The plane over part of a buffer. -/
def ofWindow (buffer : Vector UInt8 n) (window : Window n) : BitPlane n :=
  ⟨buffer, window, .window⟩

def length (p : BitPlane n) : Nat := p.window.size * 8

/-- The byte and the place in it that an index stands for. -/
def splitIndex (i : Int) : Int × Fin 8 := (i / 8, ⟨(i % 8).toNat, by omega⟩)

def get (p : BitPlane n) (i : Int) : Except IndexFault Bool := do
  let (byte, place) := splitIndex i
  let k ← resolveIndex p.kind p.window.size byte
  return p.window.bit p.buffer k place

/-- The plane with the bit at an index replaced. -/
def set (p : BitPlane n) (i : Int) (v : Bool) : Except IndexFault (BitPlane n) := do
  let (byte, place) := splitIndex i
  let k ← resolveIndex p.kind p.window.size byte
  return { p with buffer := p.window.setBit p.buffer k place v }

def bits (p : BitPlane n) : List Bool := (p.window.bytes p.buffer).flatMap bitsOf

def text (p : BitPlane n) : String := bitText p.bits

def litCount (p : BitPlane n) : Nat := ((p.window.bytes p.buffer).map popCount).foldl (· + ·) 0

theorem get_of_resolve (p : BitPlane n) {i byte : Int} {j : Fin 8} {k : Fin p.window.size}
    (h : splitIndex i = (byte, j)) (r : resolveIndex p.kind p.window.size byte = .ok k) :
    p.get i = .ok (p.window.bit p.buffer k j) := by
  simp only [get, h, r, bind, Except.bind, pure, Except.pure]

theorem set_of_resolve (p : BitPlane n) {i byte : Int} {j : Fin 8} {k : Fin p.window.size}
    (h : splitIndex i = (byte, j)) (r : resolveIndex p.kind p.window.size byte = .ok k)
    (v : Bool) : p.set i v = .ok { p with buffer := p.window.setBit p.buffer k j v } := by
  simp only [set, h, r, bind, Except.bind, pure, Except.pure]

end BitPlane

end Chip8

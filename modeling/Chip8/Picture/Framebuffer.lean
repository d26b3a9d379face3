import Chip8.Number.Whole
import Chip8.Picture.BitPlane

/-!
# Framebuffers

A bit plane seen as rows of pixels, the first row first.

* `Framebuffer.ofPlane` needs a width above zero that divides the plane's length.
* Pixel `(x, y)` is the bit `y * width + x`; coordinates are not checked on their own.
* `Framebuffer.rows` lists all pixels row by row.
-/

namespace Chip8

/-- A width that does not divide a plane's length. -/
structure WidthFault where
  width : WholeNumber
  length : Nat

def WidthFault.message (f : WidthFault) : String :=
  "Width " ++ f.width.text ++ " does not divide plane length " ++ toString f.length

/-- A bit plane in rows of equal width. -/
structure Framebuffer (n : Nat) where
  plane : BitPlane n
  width : Nat
  /-- The width as it was given; descriptions repeat it. -/
  given : WholeNumber
  given_value : given.value = width
  width_pos : 0 < width
  width_dvd : width ∣ plane.length

namespace Framebuffer

variable {n : Nat}

/-- The framebuffer of a plane and a width. -/
def ofPlane (plane : BitPlane n) (width : WholeNumber) : Except WidthFault (Framebuffer n) :=
  if h : 0 < width.value.toNat ∧ width.value.toNat ∣ plane.length then
    .ok ⟨plane, width.value.toNat, width, by omega, h.1, h.2⟩
  else .error ⟨width, plane.length⟩

def height (f : Framebuffer n) : Nat := f.plane.length / f.width

def bytesPerRow (f : Framebuffer n) : Nat := f.width / 8

def bitIndex (f : Framebuffer n) (x y : Int) : Int := y * f.width + x

/-- The index of the byte that holds a pixel. -/
def byteIndex (f : Framebuffer n) (x y : Int) : Int := f.bitIndex x y / 8

def get (f : Framebuffer n) (x y : Int) : Except IndexFault Bool := f.plane.get (f.bitIndex x y)

/-- A framebuffer over the same window with another buffer. -/
def withBuffer (f : Framebuffer n) (buffer : Vector UInt8 n) : Framebuffer n :=
  ⟨{ f.plane with buffer := buffer }, f.width, f.given, f.given_value, f.width_pos, f.width_dvd⟩

/-- The framebuffer with the pixel at coordinates replaced. -/
def set (f : Framebuffer n) (x y : Int) (v : Bool) : Except IndexFault (Framebuffer n) := do
  let plane ← f.plane.set (f.bitIndex x y) v
  return f.withBuffer plane.buffer

def litCount (f : Framebuffer n) : Nat := f.plane.litCount

def rows (f : Framebuffer n) : List (List Bool) :=
  let bits := f.plane.bits.toArray
  (List.range f.height).map fun y =>
    (List.range f.width).map fun x => bits.getD (y * f.width + x) false

def describe (f : Framebuffer n) : String :=
  "Framebuffer(width=" ++ f.given.text ++ ", height=" ++ toString f.height ++ ")"

end Framebuffer

end Chip8

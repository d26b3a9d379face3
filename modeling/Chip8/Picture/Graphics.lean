import Chip8.Number.Whole
import Chip8.Picture.Bits

/-!
# Graphics

Pictures are made with a graphics library. What the library does is no part of this one, so it is a
parameter wherever a picture is made.

* `Grid` is a table of items by column and row.
* `Graphics` lists the calls that are made.
* `Graphics.Lawful` is what the calls are documented to do: bytes are unpacked with the most
  significant bit first, numbers are laid out row by row, a colour goes where a table has a value,
  and a picture that is resized to a multiple of its size has each pixel so many times in both
  directions.
-/

namespace Chip8

/-- A colour by its red, green and blue component. -/
structure Color where
  red : UInt8
  green : UInt8
  blue : UInt8
  deriving DecidableEq

/-- A colour as given, before its components are checked. -/
structure ColorRequest where
  red : Int
  green : Int
  blue : Int

/-- The colour as it is asked for. -/
def Color.request (c : Color) : ColorRequest :=
  ⟨(c.red.toNat : Int), (c.green.toNat : Int), (c.blue.toNat : Int)⟩

/-- Items by column and row. -/
structure Grid (α : Type) where
  columns : Nat
  rows : Nat
  item : Nat → Nat → α

/-- The grid has so many columns and rows, and has the given items there. -/
structure Grid.Has {α : Type} (t : Grid α) (columns rows : Nat) (item : Nat → Nat → α) :
    Prop where
  wide : t.columns = columns
  high : t.rows = rows
  items : ∀ x < columns, ∀ y < rows, t.item x y = item x y

/-- A graphics library. -/
structure Graphics where
  /-- What a call may fail with. -/
  Fault : Type
  Picture : Type
  /-- The bits of bytes, each as a number. -/
  unpack : List UInt8 → Except Fault (List UInt8)
  /-- Numbers laid out in a count of rows of a width. -/
  layOut : List UInt8 → Nat → WholeNumber → Except Fault (Grid UInt8)
  /-- A canvas of so many columns and rows. -/
  canvas : Nat → Nat → Except Fault (Grid Color)
  /-- The canvas in one colour. -/
  fill : Grid Color → ColorRequest → Except Fault (Grid Color)
  /-- The canvas with a colour wherever a table has a value. -/
  paint : Grid Color → Grid UInt8 → UInt8 → ColorRequest → Except Fault (Grid Color)
  /-- The picture on a canvas. -/
  picture : Grid Color → Except Fault Picture
  width : Picture → Nat
  height : Picture → Nat
  /-- The colour at a column and a row. -/
  pixel : Picture → Nat → Nat → Color
  /-- The picture at another width and height, each pixel from the nearest one. -/
  resize : Picture → Nat → Nat → Except Fault Picture
  /-- The picture is written to a file. -/
  store : Picture → Except Fault Unit

namespace Graphics

/-- The picture has a size, and has the given colours as its pixels. -/
structure Shows (g : Graphics) (p : g.Picture) (width height : Nat) (pixel : Nat → Nat → Color) :
    Prop where
  wide : g.width p = width
  high : g.height p = height
  pixels : ∀ x < width, ∀ y < height, g.pixel p x y = pixel x y

/-- What is documented of the library. -/
structure Lawful (g : Graphics) : Prop where
  /-- Bits are unpacked byte by byte, the most significant first. -/
  unpack : ∀ bytes : List UInt8, ∃ bits, g.unpack bytes = .ok bits ∧
    bits.length = bytes.length * 8 ∧
    ∀ (k : Nat) (hk : k < bytes.length) (j : Fin 8),
      bits[k * 8 + j]? = some (if bitAt bytes[k] j then 1 else 0)
  /-- Numbers are laid out row by row. -/
  layOut : ∀ (items : List UInt8) (rows columns : Nat), items.length = rows * columns →
    ∃ t, g.layOut items rows (.integer columns) = .ok t ∧
      t.Has columns rows fun x y => items.getD (y * columns + x) 0
  canvas : ∀ columns rows : Nat, ∃ c, g.canvas columns rows = .ok c ∧ c.columns = columns ∧
    c.rows = rows
  fill : ∀ (c : Grid Color) (color : Color), ∃ d, g.fill c color.request = .ok d ∧
    d.Has c.columns c.rows fun _ _ => color
  paint : ∀ (c : Grid Color) (t : Grid UInt8) (v : UInt8) (color : Color),
    t.columns = c.columns → t.rows = c.rows →
    ∃ d, g.paint c t v color.request = .ok d ∧
      d.Has c.columns c.rows fun x y => if t.item x y = v then color else c.item x y
  picture : ∀ c : Grid Color, 0 < c.columns → 0 < c.rows →
    ∃ p, g.picture c = .ok p ∧ g.Shows p c.columns c.rows c.item
  /-- A picture that grows by a whole factor has each pixel so many times in both directions. -/
  resize : ∀ (p : g.Picture) (factor : Nat), 0 < g.width p → 0 < g.height p → 0 < factor →
    ∃ q, g.resize p (g.width p * factor) (g.height p * factor) = .ok q ∧
      g.Shows q (g.width p * factor) (g.height p * factor) fun x y =>
        g.pixel p (x / factor) (y / factor)

end Graphics

end Chip8

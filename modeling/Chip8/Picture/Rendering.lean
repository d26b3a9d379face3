import Chip8.Picture.Framebuffer
import Chip8.Picture.Graphics

/-!
# Pictures of framebuffers

A framebuffer as a table of numbers, and as a picture in two colours that is enlarged by a zoom.

* The zoom must be at least one. All else that can be wrong is for the graphics library to say.
* The dark colour goes everywhere first, and then the lit one where the table has a one.
* `Framebuffer.stored` is the picture as it is written to a file.
-/

namespace Chip8

inductive RenderFault (g : Graphics) where
  /-- The zoom is below one. -/
  | zoom (z : WholeNumber)
  /-- A call to the graphics library failed. -/
  | library (cause : g.Fault)

/-- The message, where the library has one for each of its faults. -/
def RenderFault.message {g : Graphics} (text : g.Fault → String) : RenderFault g → String
  | .zoom z => "Invalid zoom: " ++ z.text
  | .library cause => text cause

namespace Framebuffer

variable {n : Nat} (g : Graphics) (f : Framebuffer n)

/-- The pixels as numbers, one or zero. -/
def table : Except g.Fault (Grid UInt8) := do
  let bits ← g.unpack (f.plane.window.bytes f.plane.buffer)
  g.layOut bits f.height f.given

/-- The picture in two colours, enlarged unless the zoom is one. -/
def draw (zoom : Int) (lit dark : ColorRequest) : Except g.Fault g.Picture := do
  let pixels ← f.table g
  let canvas ← g.canvas pixels.columns pixels.rows
  let canvas ← g.fill canvas dark
  let canvas ← g.paint canvas pixels 1 lit
  let picture ← g.picture canvas
  if 1 < zoom then g.resize picture (g.width picture * zoom.toNat) (g.height picture * zoom.toNat)
  else return picture

def image (zoom : WholeNumber) (lit dark : ColorRequest) : Except (RenderFault g) g.Picture :=
  if zoom.value < 1 then .error (.zoom zoom)
  else (f.draw g zoom.value lit dark).mapError .library

/-- Green. -/
def litColor : ColorRequest := ⟨0, 255, 0⟩

/-- Black. -/
def darkColor : ColorRequest := ⟨0, 0, 0⟩

/-- The zoom of a stored picture unless another is asked for. -/
def storedZoom : WholeNumber := .integer 4

/-- The picture that a file holds. -/
def stored (zoom : WholeNumber) : Except (RenderFault g) g.Picture := do
  let picture ← f.image g zoom litColor darkColor
  (g.store picture).mapError .library
  return picture

end Framebuffer

end Chip8

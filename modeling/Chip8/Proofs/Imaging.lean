import Chip8.Picture.Rendering
import Chip8.Proofs.BitAccess

/-!
# Pictures of framebuffers

What a lawful graphics library makes of a framebuffer shows its bits.

* `BitPlane.lit` reads bits by their numbers, and `Framebuffer.picture` by column and row.
* A table has each of them as a number in its place (`table_of_lawful`): the numbers of a byte are
  unpacked from its most significant bit on, and rows are laid out one after the other.
* A picture has them as colours, each as many times in both directions as the zoom says
  (`draw_of_lawful`).
-/

namespace Chip8

namespace BitPlane

variable {n : Nat}

/-- The bit of a number is set; beyond the last bit none is. -/
def lit (p : BitPlane n) (k : Nat) : Bool := if h : k < p.length then p.bit ⟨k, h⟩ else false

theorem lit_of_lt (p : BitPlane n) {k : Nat} (h : k < p.length) : p.lit k = p.bit ⟨k, h⟩ :=
  dif_pos h

end BitPlane

theorem Grid.Has.congr {α : Type} {t : Grid α} {columns rows : Nat} {item item' : Nat → Nat → α}
    (h : t.Has columns rows item)
    (same : ∀ x < columns, ∀ y < rows, item x y = item' x y) : t.Has columns rows item' :=
  ⟨h.wide, h.high, fun x hx y hy => (h.items x hx y hy).trans (same x hx y hy)⟩

namespace Graphics.Lawful

variable {g : Graphics}

/-- A table in two colours. -/
theorem twoColored (lawful : g.Lawful) (t : Grid UInt8) (wide : 0 < t.columns) (high : 0 < t.rows)
    (lit dark : Color) :
    ∃ c₀ c₁ c₂ p, g.canvas t.columns t.rows = .ok c₀ ∧ g.fill c₀ dark.request = .ok c₁ ∧
      g.paint c₁ t 1 lit.request = .ok c₂ ∧ g.picture c₂ = .ok p ∧
      g.Shows p t.columns t.rows fun x y => if t.item x y = 1 then lit else dark := by
  obtain ⟨c₀, prepared, wide₀, high₀⟩ := lawful.canvas t.columns t.rows
  obtain ⟨c₁, dimmed, dim⟩ := lawful.fill c₀ dark
  rw [wide₀, high₀] at dim
  obtain ⟨c₂, painted, drawn⟩ := lawful.paint c₁ t 1 lit dim.wide.symm dim.high.symm
  rw [dim.wide, dim.high] at drawn
  obtain ⟨p, pictured, shown⟩ := lawful.picture c₂ (drawn.wide ▸ wide) (drawn.high ▸ high)
  rw [drawn.wide, drawn.high] at shown
  refine ⟨c₀, c₁, c₂, p, prepared, dimmed, painted, pictured, shown.wide, shown.high, ?_⟩
  intro x hx y hy
  rw [shown.pixels x hx y hy, drawn.items x hx y hy, dim.items x hx y hy]

/-- A picture that is enlarged unless the zoom is one. -/
theorem enlarged (lawful : g.Lawful) {p : g.Picture} {width height : Nat}
    {pixel : Nat → Nat → Color} (shown : g.Shows p width height pixel) (wide : 0 < width)
    (high : 0 < height) {zoom : Nat} (positive : 0 < zoom) :
    ∃ q, (if 1 < (zoom : Int) then g.resize p (g.width p * zoom) (g.height p * zoom)
        else .ok p) = .ok q ∧
      g.Shows q (width * zoom) (height * zoom) fun x y => pixel (x / zoom) (y / zoom) := by
  by_cases larger : 1 < (zoom : Int)
  · obtain ⟨q, resized, enlarged⟩ := lawful.resize p zoom (shown.wide ▸ wide)
      (shown.high ▸ high) positive
    rw [shown.wide, shown.high] at enlarged
    refine ⟨q, (if_pos larger).trans resized, enlarged.wide, enlarged.high, ?_⟩
    intro x hx y hy
    rw [enlarged.pixels x hx y hy]
    exact shown.pixels _ ((Nat.div_lt_iff_lt_mul positive).mpr hx) _
      ((Nat.div_lt_iff_lt_mul positive).mpr hy)
  · obtain rfl : zoom = 1 := by omega
    refine ⟨p, if_neg larger, ?_⟩
    simpa only [Nat.mul_one, Nat.div_one] using shown

end Graphics.Lawful

namespace Framebuffer

variable {n : Nat}

/-- The pixel at a place is lit. -/
def picture (f : Framebuffer n) (x y : Nat) : Bool := f.plane.lit (y * f.width + x)

theorem height_mul_width (f : Framebuffer n) : f.height * f.width = f.plane.length :=
  Nat.div_mul_cancel f.width_dvd

theorem number_lt (f : Framebuffer n) {x y : Nat} (hx : x < f.width) (hy : y < f.height) :
    y * f.width + x < f.plane.length := by
  have next : (y + 1) * f.width ≤ f.height * f.width := Nat.mul_le_mul_right _ hy
  rw [Nat.succ_mul, f.height_mul_width] at next
  omega

variable {g : Graphics}

/-- A number of the unpacked bytes is a bit of the plane. -/
theorem getD_unpacked (p : BitPlane n) {bits : List UInt8}
    (unpacked : ∀ (k : Nat) (hk : k < (p.window.bytes p.buffer).length) (j : Fin 8),
      bits[k * 8 + j]? = some (if bitAt (p.window.bytes p.buffer)[k] j then 1 else 0))
    {k : Nat} (hk : k < p.length) : bits.getD k 0 = if p.lit k then 1 else 0 := by
  have byte : k / 8 < (p.window.bytes p.buffer).length := by
    simp only [BitPlane.length] at hk
    simp only [Window.bytes, List.length_map, List.length_finRange]
    omega
  have number : k / 8 * 8 + (BitPlane.placeOf k : Nat) = k := Nat.div_add_mod' k 8
  have read := unpacked (k / 8) byte (BitPlane.placeOf k)
  rw [number] at read
  rw [List.getD_eq_getElem?_getD, read, p.lit_of_lt hk]
  simp only [BitPlane.bit, Window.bit, Window.bytes, List.getElem_map, List.getElem_finRange]
  rfl

/-- **A table shows the bits.** -/
theorem table_of_lawful (lawful : g.Lawful) (f : Framebuffer n) {width : Int}
    (given : f.given = .integer width) :
    ∃ t, f.table g = .ok t ∧
      t.Has f.width f.height fun x y => if f.picture x y then 1 else 0 := by
  obtain ⟨bits, unpacked, count, bit⟩ := lawful.unpack (f.plane.window.bytes f.plane.buffer)
  have full : bits.length = f.height * f.width := by
    rw [count, f.height_mul_width, BitPlane.length, Window.bytes, List.length_map,
      List.length_finRange]
  obtain ⟨t, laid, has⟩ := lawful.layOut bits f.height f.width full
  have columns : f.given = .integer f.width := by
    rw [given, ← f.given_value, given]
    rfl
  refine ⟨t, ?_, has.congr fun x hx y hy => getD_unpacked f.plane bit (f.number_lt hx hy)⟩
  rw [table, unpacked, columns]
  exact laid

/-- **A picture shows the bits in two colours**, each as many times as the zoom says. -/
theorem draw_of_lawful (lawful : g.Lawful) (f : Framebuffer n) {width : Int}
    (given : f.given = .integer width) (filled : 0 < f.height) {zoom : Nat} (positive : 0 < zoom)
    (lit dark : Color) :
    ∃ p, f.draw g zoom lit.request dark.request = .ok p ∧
      g.Shows p (f.width * zoom) (f.height * zoom) fun x y =>
        if f.picture (x / zoom) (y / zoom) then lit else dark := by
  obtain ⟨t, tabled, numbers⟩ := f.table_of_lawful lawful given
  obtain ⟨c₀, c₁, c₂, p, prepared, dimmed, painted, pictured, shown⟩ := lawful.twoColored t
    (numbers.wide ▸ f.width_pos) (numbers.high ▸ filled) lit dark
  have colors : g.Shows p f.width f.height fun x y => if f.picture x y then lit else dark := by
    rw [numbers.wide, numbers.high] at shown
    refine ⟨shown.wide, shown.high, fun x hx y hy => (shown.pixels x hx y hy).trans ?_⟩
    rw [numbers.items x hx y hy]
    cases f.picture x y <;> rfl
  obtain ⟨q, enlarged, shown⟩ := lawful.enlarged colors f.width_pos filled positive
  refine ⟨q, ?_, shown⟩
  rw [← enlarged]
  simp only [draw, tabled, prepared, dimmed, painted, pictured, bind, Except.bind, pure,
    Except.pure, Int.toNat_natCast]

end Framebuffer

end Chip8

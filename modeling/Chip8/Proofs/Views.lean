import Chip8.Bench.Graphics
import Chip8.Proofs.Imaging

/-!
# Views of a framebuffer

A framebuffer can be read pixel by pixel, as a table, as text, by the count of its lit pixels, and
as an image. All of these show one picture.

* `BitPlane.bits_eq`: the bits of the bytes, one byte after the other, are the bits by their
  numbers. Row-major order is one law, `flatMap_range`.
* `Framebuffer.Shows` says that every view shows a picture. `shows_picture` says so of the picture
  that has the bits as its pixels, row after row.
* `views_agree` adds that a pixel that is set changes in every view, and no other does.
-/

namespace Chip8

/-- Rows of one width put together: an item's column is the remainder of its number, and its row
the quotient. -/
theorem flatMap_range {α : Type} (height width : Nat) (item : Nat → Nat → α) :
    ((List.range height).flatMap fun y => (List.range width).map fun x => item x y)
      = (List.range (height * width)).map fun k => item (k % width) (k / width) := by
  induction height with
  | zero => simp
  | succ height ih =>
    have last : (List.range width).map (fun x => item x height)
        = (List.range width).map fun x =>
          item ((height * width + x) % width) ((height * width + x) / width) := by
      apply List.map_congr_left
      intro x hx
      have below : x < width := List.mem_range.mp hx
      have column : (height * width + x) % width = x := by
        rw [Nat.mul_add_mod_self_right, Nat.mod_eq_of_lt below]
      have row : (height * width + x) / width = height := by
        rw [Nat.add_comm, Nat.add_mul_div_right _ _ (by omega), Nat.div_eq_of_lt below,
          Nat.zero_add]
      rw [column, row]
    rw [List.range_succ, List.flatMap_append, ih, List.flatMap_singleton, last,
      Nat.succ_mul, List.range_add, List.map_append, List.map_map]
    rfl

theorem map_finRange {α : Type} {n : Nat} {f : Fin n → α} {g : Nat → α}
    (same : ∀ k : Fin n, f k = g k) : (List.finRange n).map f = (List.range n).map g := by
  apply List.ext_getElem
  · simp
  · intro k _ _
    simp [same]

theorem foldl_popCount (bytes : List UInt8) (start : Nat) :
    (bytes.map popCount).foldl (· + ·) start = start + (bytes.flatMap bitsOf).count true := by
  induction bytes generalizing start with
  | nil => rfl
  | cons b rest ih =>
    rw [List.map_cons, List.foldl_cons, ih, List.flatMap_cons, List.count_append, popCount,
      Nat.add_assoc]

namespace BitPlane

variable {n : Nat}

/-- The bits of the bytes, one byte after the other, are the bits by their numbers. -/
theorem bits_eq (p : BitPlane n) : p.bits = (List.range p.length).map p.lit := by
  have byte (k : Fin p.window.size) : bitsOf (p.window.byte p.buffer k)
      = (List.range 8).map fun j => p.lit (k.val * 8 + j) := by
    apply map_finRange
    intro j
    have number : k.val * 8 + j.val < p.length := by
      have := k.isLt
      simp only [length]
      omega
    have high : p.byteOf ⟨k.val * 8 + j.val, number⟩ = k := by
      ext
      simp only [byteOf]
      omega
    have low : placeOf (k.val * 8 + j.val) = j := by
      ext
      simp only [placeOf]
      omega
    rw [p.lit_of_lt number, bit, high, low]
    rfl
  have rows : (List.finRange p.window.size).map (fun k => bitsOf (p.window.byte p.buffer k))
      = (List.range p.window.size).map fun y => (List.range 8).map fun j => p.lit (y * 8 + j) :=
    map_finRange byte
  rw [bits, Window.bytes, List.flatMap_map, List.flatMap_def, rows, ← List.flatMap_def,
    flatMap_range _ _ fun j y => p.lit (y * 8 + j)]
  simp only [Nat.div_add_mod']
  rfl

theorem litCount_eq (p : BitPlane n) : p.litCount = p.bits.count true := by
  rw [litCount, foldl_popCount, Nat.zero_add]
  rfl

theorem position_natCast (p : BitPlane n) {k : Nat} (h : k < p.length) (within : p.Within k) :
    p.position within = ⟨k, h⟩ := by
  have residue : (k : Int) % p.length = k := Int.emod_eq_of_lt (by omega) (by omega)
  simp only [position, residue, Int.toNat_natCast]

theorem get_of_lt (p : BitPlane n) (small : fitsWord p.window.size) {k : Nat}
    (h : k < p.length) : p.get k = .ok (p.lit k) := by
  have within : p.Within k := ⟨by omega, by omega⟩
  rw [p.get_of_within small within, p.position_natCast h, p.lit_of_lt h]

theorem set_of_lt (p : BitPlane n) (small : fitsWord p.window.size) {k : Nat}
    (h : k < p.length) (v : Bool) : p.set k v = .ok (p.assign ⟨k, h⟩ v) := by
  have within : p.Within k := ⟨by omega, by omega⟩
  rw [p.set_of_within small within, p.position_natCast h]

theorem lit_assign (p : BitPlane n) (k : Fin p.length) (v : Bool) {l : Nat} (h : l < p.length) :
    (p.assign k v).lit l = if l = k then v else p.lit l := by
  have read : (p.assign k v).lit l = if (⟨l, h⟩ : Fin p.length) = k then v else p.bit ⟨l, h⟩ :=
    (lit_of_lt (p.assign k v) h).trans (p.bit_assign k ⟨l, h⟩ v)
  rw [read, p.lit_of_lt h]
  simp only [Fin.ext_iff]

end BitPlane

namespace Framebuffer

variable {n : Nat}

/-- The places of the pixels, row after row. -/
def points (f : Framebuffer n) : List (Nat × Nat) :=
  (List.range f.height).flatMap fun y => (List.range f.width).map fun x => (x, y)

/-- Places in a row below the width are told apart by their numbers. -/
theorem number_inj {width x y x' y' : Nat} (hx : x < width) (hx' : x' < width) :
    y' * width + x' = y * width + x ↔ x' = x ∧ y' = y := by
  constructor
  · intro same
    have column := congrArg (· % width) same
    have row := congrArg (· / width) same
    simp only [Nat.mul_add_mod_self_right, Nat.mod_eq_of_lt, hx, hx'] at column
    have nonzero : 0 < width := by omega
    simp only [Nat.add_comm _ x', Nat.add_comm _ x, Nat.add_mul_div_right _ _ nonzero,
      Nat.div_eq_of_lt, hx, hx', Nat.zero_add] at row
    exact ⟨column, row⟩
  · rintro ⟨rfl, rfl⟩
    rfl

theorem litCount_eq_countP (f : Framebuffer n) :
    f.litCount = f.points.countP fun q => f.picture q.1 q.2 := by
  have numbered :
      f.points = (List.range f.plane.length).map fun k => (k % f.width, k / f.width) := by
    rw [points, flatMap_range, height_mul_width]
  rw [litCount, BitPlane.litCount_eq, BitPlane.bits_eq, numbered, List.countP_map, List.count,
    List.countP_map]
  apply List.countP_congr
  intro k _
  simp [picture, Nat.div_add_mod']

/-- Every view of a framebuffer shows the picture. -/
structure Shows (g : Graphics) (f : Framebuffer n) (picture : Nat → Nat → Bool) : Prop where
  get : ∀ x < f.width, ∀ y < f.height, f.get x y = .ok (picture x y)
  table : ∃ t, f.table g = .ok t ∧ t.Has f.width f.height fun x y => if picture x y then 1 else 0
  text : ∀ x < f.width, ∀ y < f.height,
    f.plane.text.toList[y * f.width + x]? = some (if picture x y then '1' else '0')
  litCount : f.litCount = f.points.countP fun q => picture q.1 q.2
  image : ∀ (zoom : Nat) (lit dark : Color), 0 < zoom →
    ∃ p, f.image g (.integer zoom) lit.request dark.request = .ok p ∧
      g.Shows p (f.width * zoom) (f.height * zoom) fun x y =>
        if picture (x / zoom) (y / zoom) then lit else dark

theorem get_picture (f : Framebuffer n) (small : fitsWord f.plane.window.size) {x y : Nat}
    (hx : x < f.width) (hy : y < f.height) : f.get x y = .ok (f.picture x y) := by
  have index : f.bitIndex x y = (y * f.width + x : Nat) := by simp [bitIndex]
  rw [get, index]
  exact f.plane.get_of_lt small (f.number_lt hx hy)

theorem set_picture (f : Framebuffer n) (small : fitsWord f.plane.window.size) {x y : Nat}
    (hx : x < f.width) (hy : y < f.height) (v : Bool) :
    ∃ buffer, f.set x y v = .ok (f.withBuffer buffer) ∧
      ∀ x' < f.width, ∀ y' < f.height,
        (f.withBuffer buffer).picture x' y' = if x' = x ∧ y' = y then v else f.picture x' y' := by
  have index : f.bitIndex x y = (y * f.width + x : Nat) := by simp [bitIndex]
  have number := f.number_lt hx hy
  refine ⟨(f.plane.assign ⟨_, number⟩ v).buffer, ?_, ?_⟩
  · rw [set, index, f.plane.set_of_lt small number]
    rfl
  · intro x' hx' y' hy'
    have other := f.plane.lit_assign ⟨_, number⟩ v (f.number_lt hx' hy')
    simp only [number_inj hx hx'] at other
    exact other

theorem text_picture (f : Framebuffer n) {x y : Nat} (hx : x < f.width) (hy : y < f.height) :
    f.plane.text.toList[y * f.width + x]? = some (if f.picture x y then '1' else '0') := by
  have number := f.number_lt hx hy
  simp [BitPlane.text, bitText, BitPlane.bits_eq, number]
  rfl

variable {g : Graphics}

/-- The picture that the bits are is shown by every view. -/
theorem shows_picture (lawful : g.Lawful) (f : Framebuffer n) {width : Int}
    (given : f.given = .integer width) (filled : 0 < f.height)
    (small : fitsWord f.plane.window.size) : f.Shows g f.picture where
  get _ hx _ hy := f.get_picture small hx hy
  table := f.table_of_lawful lawful given
  text _ hx _ hy := f.text_picture hx hy
  litCount := f.litCount_eq_countP
  image zoom lit dark positive := by
    obtain ⟨p, drawn, shown⟩ := f.draw_of_lawful lawful given filled positive lit dark
    have valid : ¬ (WholeNumber.integer zoom).value < 1 := by
      simp only [WholeNumber.value]
      omega
    refine ⟨p, (if_neg valid).trans ?_, shown⟩
    rw [WholeNumber.value, drawn]
    rfl

/-- A view shows nothing but the pixels that there are. -/
theorem Shows.congr {f : Framebuffer n} {picture picture' : Nat → Nat → Bool}
    (same : ∀ x < f.width, ∀ y < f.height, picture x y = picture' x y) (h : f.Shows g picture) :
    f.Shows g picture' where
  get x hx y hy := by rw [h.get x hx y hy, same x hx y hy]
  table := by
    obtain ⟨t, tabled, numbers⟩ := h.table
    refine ⟨t, tabled, numbers.congr fun x hx y hy => ?_⟩
    rw [same x hx y hy]
  text x hx y hy := by rw [h.text x hx y hy, same x hx y hy]
  litCount := by
    rw [h.litCount]
    apply List.countP_congr
    intro q hq
    obtain ⟨y, hy, place⟩ := List.mem_flatMap.mp hq
    obtain ⟨x, hx, rfl⟩ := List.mem_map.mp place
    rw [same x (List.mem_range.mp hx) y (List.mem_range.mp hy)]
  image zoom lit dark positive := by
    obtain ⟨p, drawn, shown⟩ := h.image zoom lit dark positive
    refine ⟨p, drawn, shown.wide, shown.high, fun x hx y hy => (shown.pixels x hx y hy).trans ?_⟩
    have column := (Nat.div_lt_iff_lt_mul positive).mpr hx
    have row := (Nat.div_lt_iff_lt_mul positive).mpr hy
    rw [same _ column _ row]

theorem ofPlane_eq_ok (p : BitPlane n) {width : Nat} (positive : 0 < width)
    (divides : width ∣ p.length) :
    ∃ f, ofPlane p (.integer width) = .ok f ∧ f.plane = p ∧ f.width = width ∧
      f.given = .integer width :=
  ⟨_, dif_pos ⟨positive, divides⟩, rfl, rfl, rfl⟩

/-- **All views show one picture.** A plane that is not empty, and a width that divides its length,
make a framebuffer whose pixels, table, text, count and images show one picture, and go on to show
one when a pixel is set: the picture with that pixel replaced. The bytes of a plane are counted by a
signed word, and the table and the images are made by a lawful graphics library. -/
theorem views_agree (lawful : g.Lawful) (p : BitPlane n) (filled : 0 < p.window.size)
    (small : fitsWord p.window.size) {width : Nat} (positive : 0 < width)
    (divides : width ∣ p.length) :
    ∃ f picture, ofPlane p (.integer width) = .ok f ∧ f.plane = p ∧ f.width = width ∧
      f.height * width = p.length ∧ f.Shows g picture ∧
      ∀ x < width, ∀ y < f.height, ∀ v, ∃ buffer, f.set x y v = .ok (f.withBuffer buffer) ∧
        (f.withBuffer buffer).Shows g fun x' y' =>
          if x' = x ∧ y' = y then v else picture x' y' := by
  obtain ⟨f, made, rfl, rfl, given⟩ := ofPlane_eq_ok p positive divides
  have rows : 0 < f.height := by
    apply Nat.pos_of_ne_zero
    intro none
    have empty := f.height_mul_width
    rw [none, Nat.zero_mul, BitPlane.length] at empty
    omega
  refine ⟨f, f.picture, made, rfl, rfl, f.height_mul_width,
    f.shows_picture lawful given rows small, ?_⟩
  intro x hx y hy v
  obtain ⟨buffer, assigned, pixels⟩ := f.set_picture small hx hy v
  refine ⟨buffer, assigned, ?_⟩
  exact Shows.congr pixels ((f.withBuffer buffer).shows_picture lawful given rows small)

/-- Two rows of twelve pixels in three bytes, enlarged three times. -/
theorem views_agree_halves :
    let p : BitPlane 3 := .ofBuffer #v[0x80, 0x10, 0x01]
    let red : Color := ⟨255, 0, 0⟩
    let blue : Color := ⟨0, 0, 255⟩
    Graphics.plain.Lawful ∧ 0 < p.window.size ∧ fitsWord p.window.size ∧ 12 ∣ p.length ∧
      ∃ f picture, ofPlane p (.integer 12) = .ok f ∧ f.Shows .plain picture ∧
        picture 11 0 = true ∧ f.plane.text.toList[11]? = some '1' ∧
        ∃ i, f.image .plain (.integer 3) red.request blue.request = .ok i ∧
          Graphics.plain.width i = 36 ∧ Graphics.plain.height i = 6 ∧
          Graphics.plain.pixel i 34 1 = red := by
  intro p red blue
  have lawful := Graphics.plain_lawful
  have filled : 0 < p.window.size := by decide
  have small : fitsWord p.window.size := by decide
  have divides : 12 ∣ p.length := by decide
  obtain ⟨f, picture, made, plane, width, height, shows, -⟩ :=
    views_agree lawful p filled small (show 0 < 12 by decide) divides
  have two : f.height = 2 := by
    have bits : p.length = 24 := rfl
    omega
  have corner : f.get (11 : Nat) (0 : Nat) = .ok (picture 11 0) :=
    shows.get 11 (by omega) 0 (by omega)
  have lit : picture 11 0 = true := by
    have read : p.get (11 : Nat) = .ok (p.lit 11) := p.get_of_lt (by decide) (by decide)
    have bit : p.lit 11 = true := by decide
    rw [get, bitIndex, plane, width] at corner
    exact ((Except.ok.inj (read.symm.trans corner)).symm).trans bit
  have character := shows.text 11 (by omega) 0 (by omega)
  rw [lit, width] at character
  obtain ⟨i, made', shown⟩ := shows.image 3 red blue (by decide)
  have pixel := shown.pixels 34 (by omega) 1 (by omega)
  rw [show 34 / 3 = 11 from rfl, show 1 / 3 = 0 from rfl, lit] at pixel
  have wide := shown.wide
  have high := shown.high
  rw [width] at wide
  rw [two] at high
  exact ⟨lawful, filled, small, divides, f, picture, made, shows, lit, character, i, made', wide,
    high, pixel⟩

end Framebuffer

end Chip8

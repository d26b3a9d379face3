import Chip8.Picture.Graphics

/-!
# Plain graphics

A graphics library that keeps its pictures as grids of colours and has room for any size.

* `Graphics.plain_lawful`: it does what is documented.
-/

namespace Chip8

inductive PlainFault where
  /-- A colour component is no byte. -/
  | component (n : Int)
  /-- The numbers do not fill the rows. -/
  | shape
  deriving DecidableEq

namespace ColorRequest

def component (n : Int) : Except PlainFault UInt8 :=
  if 0 ≤ n ∧ n ≤ 255 then .ok (.ofNat n.toNat) else .error (.component n)

/-- The colour, if its components are bytes. -/
def resolve (c : ColorRequest) : Except PlainFault Color := do
  return ⟨← component c.red, ← component c.green, ← component c.blue⟩

end ColorRequest

theorem Color.resolve_request (c : Color) : c.request.resolve = .ok c := by
  have component (b : UInt8) : ColorRequest.component (b.toNat : Int) = .ok b := by
    have := b.toNat_lt
    rw [ColorRequest.component, if_pos (by omega), Int.toNat_natCast, UInt8.ofNat_toNat]
  rw [ColorRequest.resolve, request, component, component, component]
  rfl

/-- Of so many pixels in a row, the one nearest to a pixel of a row of another size. -/
def nearest (size larger x : Nat) : Nat := (2 * x + 1) * size / (2 * larger)

theorem nearest_mul {size factor : Nat} (some_size : 0 < size) (x : Nat) :
    nearest size (size * factor) x = x / factor := by
  have halves : (2 * x + 1) / 2 = x := by omega
  rw [nearest, Nat.mul_comm (2 * x + 1), Nat.mul_left_comm, Nat.mul_div_mul_left _ _ some_size,
    ← Nat.div_div_eq_div_mul, halves]

/-- The bits of a byte as numbers, the most significant first. -/
def bitNumbers (b : UInt8) : List UInt8 := (bitsOf b).map fun v => if v then 1 else 0

theorem length_bitNumbers (b : UInt8) : (bitNumbers b).length = 8 := by
  simp [bitNumbers, bitsOf]

theorem length_flatMap_bitNumbers (bytes : List UInt8) :
    (bytes.flatMap bitNumbers).length = bytes.length * 8 := by
  induction bytes with
  | nil => rfl
  | cons b rest ih =>
    rw [List.flatMap_cons, List.length_append, ih, length_bitNumbers, List.length_cons]
    omega

theorem getElem?_flatMap_bitNumbers (bytes : List UInt8) {k : Nat} (hk : k < bytes.length)
    (j : Fin 8) :
    (bytes.flatMap bitNumbers)[k * 8 + j]? = some (if bitAt bytes[k] j then 1 else 0) := by
  have hj := j.isLt
  induction bytes generalizing k with
  | nil => cases hk
  | cons b rest ih =>
    rw [List.flatMap_cons]
    cases k with
    | zero =>
      rw [Nat.zero_mul, Nat.zero_add, List.getElem?_append_left (by rw [length_bitNumbers]; omega)]
      simp [bitNumbers, bitsOf]
    | succ k =>
      have later : (k + 1) * 8 + j - (bitNumbers b).length = k * 8 + j := by
        rw [length_bitNumbers]
        omega
      rw [List.getElem?_append_right (by rw [length_bitNumbers]; omega), later]
      exact ih (Nat.lt_of_succ_lt_succ hk)

namespace Graphics

def plain : Graphics where
  Fault := PlainFault
  Picture := Grid Color
  unpack bytes := .ok (bytes.flatMap bitNumbers)
  layOut items rows columns :=
    let width := columns.value.toNat
    let items := items.toArray
    if items.size = rows * width then
      .ok ⟨width, rows, fun x y => items.getD (y * width + x) 0⟩
    else .error .shape
  canvas columns rows := .ok ⟨columns, rows, fun _ _ => ⟨0, 0, 0⟩⟩
  fill c color := do
    let color ← color.resolve
    return { c with item := fun _ _ => color }
  paint c t v color := do
    let color ← color.resolve
    return { c with item := fun x y => if t.item x y = v then color else c.item x y }
  picture c := .ok c
  width p := p.columns
  height p := p.rows
  pixel p := p.item
  resize p width height := .ok ⟨width, height, fun x y =>
    p.item (nearest p.columns width x) (nearest p.rows height y)⟩
  store _ := .ok ()

theorem plain_lawful : plain.Lawful where
  unpack bytes := ⟨_, rfl, length_flatMap_bitNumbers bytes,
    fun _ hk j => getElem?_flatMap_bitNumbers bytes hk j⟩
  layOut items rows columns full := by
    have fills : items.toArray.size = rows * columns := full
    have width : (WholeNumber.integer columns).value.toNat = columns := rfl
    refine ⟨_, if_pos fills, rfl, rfl, fun x _ y _ => ?_⟩
    simp [width]
  canvas _ _ := ⟨_, rfl, rfl, rfl⟩
  fill c color := by
    refine ⟨{ c with item := fun _ _ => color }, ?_, rfl, rfl, fun _ _ _ _ => rfl⟩
    simp only [plain, color.resolve_request]
    rfl
  paint c t v color _ _ := by
    refine ⟨{ c with item := fun x y => if t.item x y = v then color else c.item x y }, ?_, rfl,
      rfl, fun _ _ _ _ => rfl⟩
    simp only [plain, color.resolve_request]
    rfl
  picture _ _ _ := ⟨_, rfl, rfl, rfl, fun _ _ _ _ => rfl⟩
  resize p factor wide high _ := by
    have column (x : Nat) : nearest p.columns (p.columns * factor) x = x / factor :=
      nearest_mul wide x
    have row (y : Nat) : nearest p.rows (p.rows * factor) y = y / factor := nearest_mul high y
    refine ⟨_, rfl, rfl, rfl, fun x _ y _ => ?_⟩
    simp only [plain, column, row]

end Graphics

end Chip8

import Chip8.Proofs.Frames

/-!
# Flipped pixels

What drawing one sprite row does to the pixels and to the bytes below them.

* Each pixel has a bit of its own (`pixel_setPixel`), and the eight bits of a row have columns of
  their own (`column_add_injective`). So flips one after another are flips at once:
  `pixel_flipRow` gives each pixel, `hit_flipRow` the flag.
* `getElem_flipRow`: only bytes of the told stretch `rowSpan` change.
-/

namespace Chip8

theorem Window.getElem_setBit_of_ne {n : Nat} (w : Window n) (buffer : Vector UInt8 n)
    (k : Fin w.size) (j : Fin 8) (v : Bool) {a : Nat} (ha : a < n) (h : a ≠ w.start + k) :
    (w.setBit buffer k j v)[a] = buffer[a] :=
  Vector.getElem_set_ne (w.place k).isLt ha fun e => h e.symm

/-- Eight columns side by side are eight columns. -/
theorem column_add_injective (x : Nat) {i j : Fin spriteWidth}
    (h : column (x + i) = column (x + j)) : i = j := by
  have hi := i.isLt
  have hj := j.isLt
  have hv := Fin.val_eq_of_eq h
  simp only [column, displayWidth, spriteWidth] at hi hj hv
  ext
  omega

theorem line_add_injective (y : Nat) {r s : Nat} (hr : r < displayHeight) (hs : s < displayHeight)
    (h : line (y + r) = line (y + s)) : r = s := by
  have hv := Fin.val_eq_of_eq h
  simp only [line, displayHeight] at hr hs hv
  omega

/-- The bits of a row lie in the bytes of its stretch. -/
theorem pixelByte_mem_rowSpan (x : Nat) (y : Fin displayHeight) (j : Fin spriteWidth) :
    (rowSpan (column x) y).1 ≤ (pixelByte (column (x + j)) y).val ∧
      (pixelByte (column (x + j)) y).val
        < (rowSpan (column x) y).1 + (rowSpan (column x) y).2 := by
  have hj := j.isLt
  by_cases h : (column x).val + spriteWidth ≤ displayWidth
  · simp only [rowSpan, if_pos h]
    simp only [pixelByte, column, displayWidth, spriteWidth] at hj h ⊢
    omega
  · simp only [rowSpan, if_neg h]
    simp only [pixelByte, column, displayWidth, spriteWidth] at hj h ⊢
    omega

theorem rowSpan_le (x : Fin displayWidth) (y : Fin displayHeight) :
    (rowSpan x y).1 + (rowSpan x y).2 ≤ displaySize := by
  have hx := x.isLt
  have hy := y.isLt
  by_cases h : x.val + spriteWidth ≤ displayWidth
  · simp only [rowSpan, if_pos h]
    simp only [displayWidth, displayHeight, spriteWidth, displaySize, displayEnd,
      displayStart] at hx hy h ⊢
    omega
  · simp only [rowSpan, if_neg h]
    simp only [displayWidth, displayHeight, spriteWidth, displaySize, displayEnd,
      displayStart] at hx hy h ⊢
    omega

namespace Machine

theorem getElem_setPixel (m : Machine) (x : Fin displayWidth) (y : Fin displayHeight) (v : Bool)
    {a : Nat} (ha : a < memorySize) (h : a ≠ displayStart + (pixelByte x y).val) :
    (m.setPixel x y v).memory[a] = m.memory[a] :=
  displayWindow.getElem_setBit_of_ne _ _ _ _ ha h

/-- Each pixel has a bit of its own. -/
theorem pixel_setPixel (m : Machine) (x px : Fin displayWidth) (y py : Fin displayHeight)
    (v : Bool) :
    (m.setPixel x y v).pixel px py = if px = x ∧ py = y then v else m.pixel px py := by
  have same : pixelByte px py = pixelByte x y ∧ pixelPlace px py = pixelPlace x y
      ↔ px = x ∧ py = y := by
    constructor
    · intro ⟨hbyte, hplace⟩
      have hb := Fin.val_eq_of_eq hbyte
      have hp := Fin.val_eq_of_eq hplace
      have hx := x.isLt
      have hpx := px.isLt
      simp only [pixelByte, pixelPlace, displayWidth] at hb hp hx hpx
      constructor <;> ext <;> omega
    · rintro ⟨rfl, rfl⟩
      exact ⟨rfl, rfl⟩
  simp only [pixel, setPixel, Window.bit_setBit, same]

/-- The column is that of a set bit among the given ones. -/
def hitsColumn (x : Nat) (row : UInt8) (bits : List (Fin spriteWidth)) (px : Fin displayWidth) :
    Bool :=
  bits.any fun j => px = column (x + j) && bitAt row j

theorem hitsColumn_of_not_mem {x : Nat} {row : UInt8} {bits : List (Fin spriteWidth)}
    {j : Fin spriteWidth} (hj : j ∉ bits) : hitsColumn x row bits (column (x + j)) = false := by
  simp only [hitsColumn, List.any_eq_false, Bool.and_eq_true, decide_eq_true_eq, not_and]
  intro i hi e
  exact absurd (column_add_injective x e ▸ hi) hj

section FlipBits

variable {x : Nat} {y : Fin displayHeight} {row : UInt8}

theorem flipBits_cons (j : Fin spriteWidth) (rest : List (Fin spriteWidth)) (m : Machine)
    (hit : Bool) :
    flipBits x y row (j :: rest) (m, hit) =
      if bitAt row j then
        flipBits x y row rest (m.setPixel (column (x + j)) y !(m.pixel (column (x + j)) y),
          hit || m.pixel (column (x + j)) y)
      else flipBits x y row rest (m, hit) := rfl

theorem pixel_flipBits {bits : List (Fin spriteWidth)} (distinct : bits.Nodup) (m : Machine)
    (hit : Bool) (px : Fin displayWidth) (py : Fin displayHeight) :
    (flipBits x y row bits (m, hit)).1.pixel px py =
      (m.pixel px py ^^ (py = y && hitsColumn x row bits px)) := by
  induction bits generalizing m hit with
  | nil => simp [flipBits, hitsColumn]
  | cons j rest ih =>
    obtain ⟨hj, hrest⟩ := List.nodup_cons.mp distinct
    rw [flipBits_cons]
    cases hb : bitAt row j with
    | false => simp [ih hrest, hitsColumn, hb]
    | true =>
      rw [if_pos rfl, ih hrest, pixel_setPixel]
      by_cases here : px = column (x + j) ∧ py = y
      · obtain ⟨rfl, rfl⟩ := here
        rw [if_pos ⟨rfl, rfl⟩, hitsColumn_of_not_mem hj]
        simp [hitsColumn, hb]
      · rw [if_neg here]
        by_cases hy : py = y
        · have hx : px ≠ column (x + j) := fun e => here ⟨e, hy⟩
          simp [hitsColumn, hx]
        · simp [hy]

theorem hit_flipBits {bits : List (Fin spriteWidth)} (distinct : bits.Nodup) (m : Machine)
    (hit : Bool) :
    (flipBits x y row bits (m, hit)).2 =
      (hit || bits.any fun j => bitAt row j && m.pixel (column (x + j)) y) := by
  induction bits generalizing m hit with
  | nil => simp [flipBits]
  | cons j rest ih =>
    obtain ⟨hj, hrest⟩ := List.nodup_cons.mp distinct
    rw [flipBits_cons]
    cases hb : bitAt row j with
    | false => simp [ih hrest, hb]
    | true =>
      have untouched : ∀ i ∈ rest,
          (m.setPixel (column (x + j)) y !(m.pixel (column (x + j)) y)).pixel (column (x + i)) y
            = m.pixel (column (x + i)) y := by
        intro i hi
        rw [pixel_setPixel, if_neg]
        exact fun e => hj (column_add_injective x e.1 ▸ hi)
      rw [if_pos rfl, ih hrest, List.any_cons, hb, Bool.true_and, Bool.or_assoc]
      congr 2
      rw [Bool.eq_iff_iff, List.any_eq_true, List.any_eq_true]
      exact exists_congr fun i => and_congr_right fun hi => by rw [untouched i hi]

theorem getElem_flipBits (bits : List (Fin spriteWidth)) (m : Machine) (hit : Bool) {a : Nat}
    (ha : a < memorySize)
    (h : a < displayStart + (rowSpan (column x) y).1 ∨
      displayStart + (rowSpan (column x) y).1 + (rowSpan (column x) y).2 ≤ a) :
    (flipBits x y row bits (m, hit)).1.memory[a] = m.memory[a] := by
  induction bits generalizing m hit with
  | nil => rfl
  | cons j rest ih =>
    rw [flipBits_cons]
    split
    · rw [ih, getElem_setPixel]
      have := pixelByte_mem_rowSpan x y j
      omega
    · exact ih m hit

end FlipBits

/-- A row flips exactly the pixels of its set bits. -/
theorem pixel_flipRow (m : Machine) (x : Nat) (y : Fin displayHeight) (row : UInt8)
    (px : Fin displayWidth) (py : Fin displayHeight) :
    (m.flipRow x y row).1.pixel px py =
      (m.pixel px py ^^ (py = y && hitsColumn x row (List.finRange spriteWidth) px)) :=
  pixel_flipBits (List.nodup_finRange _) m false px py

theorem hit_flipRow (m : Machine) (x : Nat) (y : Fin displayHeight) (row : UInt8) :
    (m.flipRow x y row).2 =
      (List.finRange spriteWidth).any fun j => bitAt row j && m.pixel (column (x + j)) y := by
  rw [flipRow, hit_flipBits (List.nodup_finRange _), Bool.false_or]

/-- A row changes only bytes of the stretch that is told. -/
theorem getElem_flipRow (m : Machine) (x : Nat) (y : Fin displayHeight) (row : UInt8) {a : Nat}
    (ha : a < memorySize)
    (h : a < displayStart + (rowSpan (column x) y).1 ∨
      displayStart + (rowSpan (column x) y).1 + (rowSpan (column x) y).2 ≤ a) :
    (m.flipRow x y row).1.memory[a] = m.memory[a] :=
  getElem_flipBits _ m false ha h

/-- A row changes nothing but memory. -/
theorem flipRow_eq (m : Machine) (x : Nat) (y : Fin displayHeight) (row : UInt8) :
    (m.flipRow x y row).1 = { m with memory := (m.flipRow x y row).1.memory } :=
  System.flipBits_frame (F := fun m' => { m' with memory := (m.flipRow x y row).1.memory })
    (fun _ _ => rfl) x y row _ m false

end Machine

end Chip8

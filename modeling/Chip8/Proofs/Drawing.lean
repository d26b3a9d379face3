import Chip8.Proofs.Calm
import Chip8.Proofs.Decoding
import Chip8.Proofs.Flips
import Chip8.Proofs.Writes

/-!
# Drawing

A sprite is the exclusive or of its bits with the pixels below them, wrapping at both edges.

* `Machine.afterRows` is the machine after the first rows of a sprite. Rows have display lines of
  their own, so a row finds the pixels as they were before the sprite (`pixel_afterRows_ahead`) and
  no later one touches them again (`pixel_afterRows`).
* `Machine.spriteByte` is the byte of a row as it is when the row's turn comes: rows above may have
  drawn over the sprite itself.
-/

namespace Chip8

theorem bitAt_eq_testBit (b : UInt8) (c : Fin 8) : bitAt b c = b.toNat.testBit (7 - c) := by
  have hc := c.isLt
  simp [bitAt, BitVec.getMsbD, BitVec.getLsbD, hc]

namespace Machine

theorem hitsColumn_column (x : Nat) (row : UInt8) (c : Fin spriteWidth) :
    hitsColumn x row (List.finRange spriteWidth) (column (x + c)) = bitAt row c := by
  rw [Bool.eq_iff_iff, hitsColumn, List.any_eq_true]
  constructor
  · rintro ⟨j, -, h⟩
    rw [Bool.and_eq_true, decide_eq_true_eq] at h
    rw [column_add_injective x h.1]
    exact h.2
  · intro h
    exact ⟨c, List.mem_finRange c, by simp [h]⟩

theorem hitsColumn_of_ne {x : Nat} {px : Fin displayWidth}
    (h : ∀ c : Fin spriteWidth, px ≠ column (x + c)) (row : UInt8) :
    hitsColumn x row (List.finRange spriteWidth) px = false := by
  simp [hitsColumn, h]

/-- The machine after the first rows of the sprite at I were drawn at a place. -/
def afterRows (m : Machine) (x y : Nat) : Nat → Machine
  | 0 => m
  | r + 1 =>
    let above := m.afterRows x y r
    (above.flipRow x (line (y + r)) (above.readByte (m.i.toNat + r : Nat))).1

/-- The byte of a sprite row as it is when the rows above it are drawn. -/
def spriteByte (m : Machine) (x y r : Nat) : UInt8 :=
  (m.afterRows x y r).readByte (m.i.toNat + r : Nat)

theorem afterRows_succ (m : Machine) (x y r : Nat) :
    m.afterRows x y (r + 1) =
      ((m.afterRows x y r).flipRow x (line (y + r)) (m.spriteByte x y r)).1 := rfl

/-- Drawing changes nothing but memory. -/
theorem afterRows_eq (m : Machine) (x y r : Nat) :
    m.afterRows x y r = { m with memory := (m.afterRows x y r).memory } := by
  induction r with
  | zero => rfl
  | succ r ih =>
    have drawn := (m.afterRows x y r).flipRow_eq x (line (y + r)) (m.spriteByte x y r)
    rw [← afterRows_succ] at drawn
    rw [drawn, ih]

theorem getElem_afterRows (m : Machine) (x y r : Nat) {a : Nat} (ha : a < memorySize)
    (h : a < displayStart) : (m.afterRows x y r).memory[a] = m.memory[a] := by
  induction r with
  | zero => rfl
  | succ r ih => rw [afterRows_succ, getElem_flipRow _ _ _ _ ha (Or.inl (by omega)), ih]

/-- Pixels on lines that were not drawn on yet are as they were. -/
theorem pixel_afterRows_ahead (m : Machine) (x y : Nat) {r : Nat} {py : Fin displayHeight}
    (h : ∀ k < r, py ≠ line (y + k)) (px : Fin displayWidth) :
    (m.afterRows x y r).pixel px py = m.pixel px py := by
  induction r with
  | zero => rfl
  | succ r ih =>
    have here : py ≠ line (y + r) := h r (Nat.lt_succ_self r)
    rw [afterRows_succ, pixel_flipRow, ih fun k hk => h k (Nat.lt_succ_of_lt hk)]
    simp [here]

/-- Each row flips its pixels once. -/
theorem pixel_afterRows (m : Machine) (x y : Nat) {n : Nat} (hn : n ≤ displayHeight) {r : Nat}
    (hr : r < n) (px : Fin displayWidth) :
    (m.afterRows x y n).pixel px (line (y + r)) =
      (m.pixel px (line (y + r)) ^^
        hitsColumn x (m.spriteByte x y r) (List.finRange spriteWidth) px) := by
  have apart {r s : Nat} (hr : r < displayHeight) (hs : s < displayHeight) (hne : r ≠ s) :
      line (y + r) ≠ line (y + s) := fun e => hne (line_add_injective y hr hs e)
  induction n with
  | zero => omega
  | succ n ih =>
    rw [afterRows_succ, pixel_flipRow]
    by_cases last : r = n
    · subst last
      rw [pixel_afterRows_ahead m x y fun k hk => apart (by omega) (by omega) (by omega)]
      simp
    · rw [ih (by omega) (by omega)]
      simp [apart (by omega : r < displayHeight) (by omega : n < displayHeight) last]

/-- A row says that a pixel went dark just if one that was set before the sprite did. -/
theorem hit_afterRows (m : Machine) (x y : Nat) {r : Nat} (hr : r < displayHeight) :
    ((m.afterRows x y r).flipRow x (line (y + r)) (m.spriteByte x y r)).2 = true ↔
      ∃ c : Fin spriteWidth, bitAt (m.spriteByte x y r) c ∧
        m.pixel (column (x + c)) (line (y + r)) := by
  have ahead (px : Fin displayWidth) : (m.afterRows x y r).pixel px (line (y + r)) =
      m.pixel px (line (y + r)) :=
    pixel_afterRows_ahead m x y
      (fun k hk e => absurd (line_add_injective y (by omega) (by omega) e) (by omega)) px
  simp only [hit_flipRow, List.any_eq_true, List.mem_finRange, true_and, Bool.and_eq_true, ahead]

end Machine

namespace System

open Chip8.Action

/-- Some row from one up to another makes a pixel go dark that was set before the sprite. -/
def Collides (m : Machine) (x y first last : Nat) : Prop :=
  ∃ r, first ≤ r ∧ r < last ∧ ∃ c : Fin spriteWidth,
    bitAt (m.spriteByte x y r) c ∧ m.pixel (column (x + c)) (line (y + r))

/-- The rows of a sprite are drawn one after another, and the flag gathers their hits. -/
theorem course_drawRows (m : Machine) (x y rows : Nat) :
    ∀ (r : Nat) (hit : Bool), r + rows ≤ displayHeight →
      ∃ l hit', (drawRows x y r rows hit).course (m.afterRows x y r)
          = ⟨l, .ok hit', m.afterRows x y (r + rows)⟩ ∧
        (hit' = true ↔ hit = true ∨ Collides m x y r (r + rows)) := by
  induction rows with
  | zero =>
    intro r hit _
    refine ⟨[], hit, rfl, ?_⟩
    have none : ¬ Collides m x y r r := fun ⟨k, h₁, h₂, _⟩ => by omega
    simp [none]
  | succ rows ih =>
    intro r hit fits
    let row := (m.afterRows x y r).flipRow x (line (y + r)) (m.spriteByte x y r)
    let span := rowSpan (column x) (line (y + r))
    have hi : (m.afterRows x y r).i = m.i := by rw [m.afterRows_eq x y r]
    have hlast : r + 1 + rows = r + (rows + 1) := by omega
    obtain ⟨l, hit', hc, hiff⟩ := ih (r + 1) (hit || row.2) (by omega)
    refine ⟨⟨row.1, .event (.memory (displayStart + span.1 : Nat) span.2)⟩ :: l, hit', ?_, ?_⟩
    · rw [course_drawRows_succ, hi]
      change Course.behind _ ((drawRows x y (r + 1) rows (hit || row.2)).course
        (m.afterRows x y (r + 1))) = _
      rw [hc, Course.behind_mk, hlast]
      rfl
    · have this := m.hit_afterRows x y (by omega : r < displayHeight)
      rw [hiff, Bool.or_eq_true, or_assoc, hlast]
      refine or_congr_right ⟨?_, ?_⟩
      · rintro (h | ⟨k, h₁, h₂, h₃⟩)
        · exact ⟨r, Nat.le_refl r, by omega, this.mp h⟩
        · exact ⟨k, by omega, h₂, h₃⟩
      · rintro ⟨k, h₁, h₂, h₃⟩
        by_cases first : k = r
        · subst first
          exact Or.inl (this.mpr h₃)
        · exact Or.inr ⟨k, by omega, h₂, h₃⟩

end System

/-- The second machine is the first one after a sprite of `n` rows with the given bytes. -/
structure Machine.Blitted (m m' : Machine) (x y n : Nat) (sprite : Nat → UInt8) : Prop where
  /-- Each pixel of the sprite's area has the sprite's bit on top. -/
  drawn : ∀ r < n, ∀ c : Fin 8, m'.pixel (column (x + c)) (line (y + r)) =
    (m.pixel (column (x + c)) (line (y + r)) ^^ (sprite r).toNat.testBit (7 - c))
  /-- Every other pixel is as it was. -/
  others : ∀ px py, (∀ r < n, ∀ c : Fin 8, px = column (x + c) → py ≠ line (y + r)) →
    m'.pixel px py = m.pixel px py
  /-- So is every byte before the display. -/
  outside : ∀ a : Fin memorySize, a.val < displayStart → m'.memory.get a = m.memory.get a
  /-- The flag register says whether a set pixel was hit; the other V registers are as they were. -/
  flag : ∃ hit : Bool, m'.v = m.v.set flagRegister (if hit then 1 else 0) flagRegister.isLt ∧
    (hit = true ↔ ∃ r < n, ∃ c : Fin 8,
      m.pixel (column (x + c)) (line (y + r)) ∧ (sprite r).toNat.testBit (7 - c))
  /-- So is everything else. -/
  rest : m' = { m with memory := m'.memory, v := m'.v }

/-- The rows drawn and the flag set make the sprite. -/
theorem Machine.blitted_afterRows (m : Machine) (x y : Nat) {n : Nat} (hn : n ≤ displayHeight)
    {hit : Bool} (hiff : hit = true ↔ System.Collides m x y 0 n) :
    m.Blitted { m.afterRows x y n with
      v := (m.afterRows x y n).v.set flagRegister (if hit then 1 else 0) flagRegister.isLt } x y n
      (m.spriteByte x y) where
  drawn r hr c := by
    have flipped := m.pixel_afterRows x y hn hr (column (x + c))
    rw [hitsColumn_column, bitAt_eq_testBit] at flipped
    exact flipped
  others px py h := by
    by_cases hl : ∃ r < n, py = line (y + r)
    · obtain ⟨r, hr, rfl⟩ := hl
      have flipped := m.pixel_afterRows x y hn hr px
      rw [hitsColumn_of_ne fun c e => h r hr c e rfl, Bool.xor_false] at flipped
      exact flipped
    · exact m.pixel_afterRows_ahead x y (fun r hr e => hl ⟨r, hr, e⟩) px
  outside a ha := getElem_afterRows m x y n a.isLt ha
  flag := by
    refine ⟨hit, ?_, ?_⟩
    · rw [afterRows_eq]
    · rw [hiff]
      constructor
      · rintro ⟨r, -, hr, c, hb, hp⟩
        exact ⟨r, hr, c, hp, bitAt_eq_testBit _ _ ▸ hb⟩
      · rintro ⟨r, hr, c, hp, hb⟩
        exact ⟨r, Nat.zero_le r, hr, c, bitAt_eq_testBit _ _ ▸ hb, hp⟩
  rest := by rw [afterRows_eq]

namespace System

open Chip8.Action

/-- The course of a sprite draw. -/
theorem course_draw (x y : VIndex) {n : Nat} (hn : n ≤ displayHeight) (m : Machine) :
    let left := (m.v.get x).toNat
    let top := (m.v.get y).toNat
    ∃ l m', (draw x y n).course m = ⟨l, .ok (), m'⟩ ∧
      m.Blitted m' left top n (m.spriteByte left top) ∧
      m'.memory = (m.afterRows left top n).memory := by
  dsimp only
  generalize hx : (m.v.get x).toNat = left
  generalize hy : (m.v.get y).toNat = top
  obtain ⟨l, hit, hc, hiff⟩ := course_drawRows m left top n 0 false (by omega)
  have start : (drawRows left top 0 n false).course m = ⟨l, .ok hit, m.afterRows left top n⟩ := by
    rw [Nat.zero_add] at hc
    exact hc
  have collides : hit = true ↔ Collides m left top 0 n := by
    rw [hiff, Nat.zero_add]
    simp
  have value : UInt8.ofInt (if hit then 1 else 0) = if hit then 1 else 0 := by
    cases hit <;> rfl
  have blitted := m.blitted_afterRows left top hn collides
  simp only [draw, course_bind, course_look, Course.andThen_ok, hx, hy, start, course_setV,
    course_notify, Course.behind_mk, value]
  exact ⟨_, _, rfl, blitted, rfl⟩

/-- **Executing a draw is the wrapped exclusive or.** -/
theorem execute_draw {ω : Type} [Observers ω] (calm : Observers.Calm ω) {w : UInt16}
    (hw : w.toNat / 4096 = 0xD) (s : System ω) :
    let m := s.machine
    let o := Operands.ofOpcode w
    let x := (m.v.get o.x).toNat
    let y := (m.v.get o.y).toNat
    let after := run (execute (.ofOpcode w)) s
    after.1 = .ok none
      ∧ m.Blitted after.2.machine x y o.n (m.spriteByte x y)
      ∧ after.2.machine.memory = (m.afterRows x y o.n).memory := by
  have few : (Operands.ofOpcode w).n ≤ displayHeight := by
    simp only [Operands.ofOpcode, displayHeight]
    omega
  obtain ⟨l, m', hc, blitted, memory⟩ :=
    course_draw (Operands.ofOpcode w).x (Operands.ofOpcode w).y few s.machine
  have enc : Operation.draw.Encoded w.toNat := hw
  have course : (execute (.ofOpcode w)).course s.machine = ⟨l, .ok none, m'⟩ := by
    rw [execute_of_encoded enc]
    simp only [perform, course_bind, course_look, Course.andThen_ok, hc, course_pure,
      Course.behind_mk, List.nil_append, List.append_nil]
  obtain ⟨result, machine⟩ := run_of_calm calm (execute (.ofOpcode w)) s
  rw [course] at result machine
  dsimp only
  rw [result, machine]
  exact ⟨rfl, blitted, memory⟩

/-- The first glyph over the lower right corner. -/
theorem execute_draw_corner :
    let m := { Machine.powerOn .unseeded with v := (Vector.replicate registerCount 61) }
    let s : System Transcript := ⟨m, [⟨.monitor, none⟩], ⟨[]⟩, []⟩
    let after := run (execute (.ofOpcode 0xD015)) s
    after.1 = .ok none ∧ m.Blitted after.2.machine 61 61 5 (m.spriteByte 61 61) := by
  have drawn := execute_draw calm_transcript (w := 0xD015) (by decide)
    ⟨{ Machine.powerOn .unseeded with v := (Vector.replicate registerCount 61) },
      [⟨.monitor, none⟩], ⟨[]⟩, []⟩
  exact ⟨drawn.1, drawn.2.1⟩

end System

end Chip8

import Mathlib.Data.Nat.Bits
import Chip8.Proofs.Drawing

/-!
# Sprites over one another

Sprites whose bytes lie outside the display flip pixels, each on its own, whatever is drawn besides.

* `Machine.memory_ext`: memory is its bytes before the display and the pixels.
* `Sprite.covers` says where a sprite has a set bit. `Sprite.Drawn` is all that a draw does: covered
  pixels are flipped, and the flag says whether one of them was set (`Sprite.yields_draw`).
* `Sprite.yields_drawAll`: after many draws a pixel is flipped if an odd number of them cover it.
  So their order does not matter, nor does a sprite that is drawn twice (`draws_compose`).
-/

namespace Chip8

theorem byte_ext {b b' : UInt8} (h : ∀ j, bitAt b j = bitAt b' j) : b = b' :=
  UInt8.eq_of_toBitVec_eq (BitVec.eq_of_getMsbD_eq fun j hj => h ⟨j, hj⟩)

/-- Each bit of the display is a pixel. -/
theorem exists_pixel (k : Fin displayWindow.size) (j : Fin 8) :
    ∃ px py, pixelByte px py = k ∧ pixelPlace px py = j := by
  have hk : k.val < 256 := k.isLt
  have hj := j.isLt
  refine ⟨⟨(8 * k + j) % 64, Nat.mod_lt _ (by decide)⟩,
    ⟨(8 * k + j) / 64, by simp only [displayHeight]; omega⟩, Fin.ext ?_, Fin.ext ?_⟩
  · simp only [pixelByte, displayWidth]
    omega
  · simp only [pixelPlace, displayWidth]
    omega

namespace Machine

/-- The machines have the same bytes before the display. -/
def SameBelow (m m' : Machine) : Prop :=
  ∀ a : Fin memorySize, a.val < displayStart → m'.memory.get a = m.memory.get a

/-- Memory is its bytes before the display, and the pixels. -/
theorem memory_ext {m m' : Machine} (below : m.SameBelow m')
    (pixels : ∀ px py, m'.pixel px py = m.pixel px py) : m'.memory = m.memory := by
  refine Vector.ext fun a ha => ?_
  by_cases before : a < displayStart
  · exact below ⟨a, ha⟩ before
  · let k : Fin displayWindow.size := ⟨a - displayStart, Nat.sub_lt_left_of_lt_add
      (Nat.le_of_not_lt before) ha⟩
    have same : displayWindow.byte m'.memory k = displayWindow.byte m.memory k := by
      refine byte_ext fun j => ?_
      obtain ⟨px, py, hk, hj⟩ := exists_pixel k j
      rw [← hk, ← hj]
      exact pixels px py
    have place : (displayWindow.place k).val = a := Nat.add_sub_of_le (Nat.le_of_not_lt before)
    simpa only [Window.byte, Fin.getElem_fin, place] using same

end Machine

/-- A sprite that is to be drawn: the registers for its coordinates with what they are set to, the
address of its bytes, and the count of its rows. -/
structure Sprite where
  x : VIndex
  y : VIndex
  left : Int
  top : Int
  source : Int
  rows : Fin 16

namespace Sprite

open Chip8.System Chip8.Action

/-- The opcode that draws the sprite. -/
def opcode (d : Sprite) : UInt16 := .ofNat (0xD000 + d.x * 256 + d.y * 16 + d.rows)

/-- The registers are set, and the sprite is drawn. -/
def draw (d : Sprite) : Action Unit := do
  setV d.x d.left
  setV d.y d.top
  setI d.source
  let _ ← execute (.ofOpcode d.opcode)

/-- Sprites are drawn one after another. -/
def drawAll : List Sprite → Action Unit
  | [] => pure ()
  | d :: rest => do
    draw d
    drawAll rest

/-- The column at which the sprite is drawn. If one register is to hold both coordinates, the
second one stays. -/
def column (d : Sprite) : Nat := (UInt8.ofInt (if d.x = d.y then d.top else d.left)).toNat

/-- The line at which the sprite is drawn. -/
def line (d : Sprite) : Nat := (UInt8.ofInt d.top).toNat

/-- The byte of a row. -/
def byte (d : Sprite) (m : Machine) (r : Nat) : UInt8 := m.readByte (d.source + r)

/-- None of the sprite's bytes is part of the display. -/
def Clear (d : Sprite) : Prop := ∀ r < d.rows.val, (cell (d.source + r)).val < displayStart

instance (d : Sprite) : Decidable d.Clear := inferInstanceAs (Decidable (∀ r < _, _))

/-- The sprite has a set bit over a pixel. -/
def covers (d : Sprite) (m : Machine) (px : Fin displayWidth) (py : Fin displayHeight) : Bool :=
  (List.range d.rows).any fun r => py = Chip8.line (d.line + r) &&
    Machine.hitsColumn d.column (d.byte m r) (List.finRange spriteWidth) px

/-- The machine with the registers set for the sprite. -/
def ready (d : Sprite) (m : Machine) : Machine :=
  { m with
    v := (m.v.set d.x (UInt8.ofInt d.left) d.x.isLt).set d.y (UInt8.ofInt d.top) d.y.isLt
    i := UInt16.ofInt d.source }

theorem toNat_opcode (d : Sprite) : d.opcode.toNat = 0xD000 + d.x * 256 + d.y * 16 + d.rows := by
  have hx : d.x.val < 16 := d.x.isLt
  have hy : d.y.val < 16 := d.y.isLt
  have hn := d.rows.isLt
  simp only [opcode, UInt16.toNat_ofNat']
  omega

theorem operands_opcode (d : Sprite) : (Operands.ofOpcode d.opcode).x = d.x ∧
    (Operands.ofOpcode d.opcode).y = d.y ∧ (Operands.ofOpcode d.opcode).n = d.rows := by
  have hx : d.x.val < 16 := d.x.isLt
  have hy : d.y.val < 16 := d.y.isLt
  have hn := d.rows.isLt
  refine ⟨Fin.ext ?_, Fin.ext ?_, ?_⟩ <;>
    simp only [Operands.ofOpcode, toNat_opcode] <;> omega

theorem get_ready_y (d : Sprite) (m : Machine) : ((d.ready m).v.get d.y).toNat = d.line :=
  congrArg UInt8.toNat (Vector.getElem_set_self d.y.isLt)

theorem get_ready_x (d : Sprite) (m : Machine) : ((d.ready m).v.get d.x).toNat = d.column := by
  unfold column
  split
  · next same =>
    rw [same]
    exact d.get_ready_y m
  · next other =>
    have apart : d.y.val ≠ d.x.val := fun e => other (Fin.ext e.symm)
    exact congrArg UInt8.toNat ((Vector.getElem_set_ne d.y.isLt d.x.isLt apart).trans
      (Vector.getElem_set_self d.x.isLt))

/-- A set bit of the sprite over a pixel has a row and a column. -/
theorem covers_iff {d : Sprite} {m : Machine} {px : Fin displayWidth} {py : Fin displayHeight} :
    d.covers m px py ↔ ∃ r < d.rows.val, ∃ c : Fin spriteWidth,
      px = Chip8.column (d.column + c) ∧ py = Chip8.line (d.line + r) ∧ bitAt (d.byte m r) c := by
  simp only [covers, Machine.hitsColumn, List.any_eq_true, List.mem_range, List.mem_finRange,
    Bool.and_eq_true, decide_eq_true_eq, true_and]
  constructor
  · rintro ⟨r, hr, hy, c, hx, hb⟩
    exact ⟨r, hr, c, hx, hy, hb⟩
  · rintro ⟨r, hr, c, hx, hy, hb⟩
    exact ⟨r, hr, hy, c, hx, hb⟩

/-- Over a pixel of the sprite's area there is one bit only. -/
theorem covers_at (d : Sprite) (m : Machine) {r : Nat} (hr : r < d.rows.val)
    (c : Fin spriteWidth) :
    d.covers m (Chip8.column (d.column + c)) (Chip8.line (d.line + r)) = bitAt (d.byte m r) c := by
  -- the area is no wider and no higher than the display, so no pixel comes twice
  have short {s : Nat} (hs : s < d.rows.val) : s < displayHeight := by
    have := d.rows.isLt
    simp only [displayHeight]
    omega
  rw [Bool.eq_iff_iff, covers_iff]
  constructor
  · rintro ⟨s, hs, j, hx, hy, hb⟩
    rw [column_add_injective d.column hx, line_add_injective d.line (short hr) (short hs) hy]
    exact hb
  · exact fun hb => ⟨r, hr, c, rfl, rfl, hb⟩

/-- A sprite covers a pixel somewhere if it has a set bit. -/
theorem exists_covers_iff (d : Sprite) (m : Machine) : (∃ px py, d.covers m px py) ↔
    ∃ r < d.rows.val, ∃ c : Fin 8, (d.byte m r).toNat.testBit (7 - c) := by
  constructor
  · rintro ⟨px, py, covered⟩
    obtain ⟨r, hr, c, -, -, bit⟩ := covers_iff.mp covered
    exact ⟨r, hr, c, bitAt_eq_testBit _ _ ▸ bit⟩
  · rintro ⟨r, hr, c, bit⟩
    refine ⟨_, _, (d.covers_at m hr c).trans ?_⟩
    rw [bitAt_eq_testBit]
    exact bit

theorem covers_congr {d : Sprite} (clear : d.Clear) {m m' : Machine} (below : m.SameBelow m')
    (px : Fin displayWidth) (py : Fin displayHeight) : d.covers m' px py = d.covers m px py := by
  have byte : ∀ r < d.rows.val, d.byte m' r = d.byte m r :=
    fun r hr => below (cell (d.source + r)) (clear r hr)
  rw [Bool.eq_iff_iff, covers_iff, covers_iff]
  exact exists_congr fun r => and_congr_right fun hr => by rw [byte r hr]

/-- Rows above do not reach the bytes of the sprite. -/
theorem spriteByte_ready {d : Sprite} (clear : d.Clear) (m : Machine) (x y : Nat) {r : Nat}
    (hr : r < d.rows.val) : (d.ready m).spriteByte x y r = d.byte m r := by
  have place : cell ((UInt16.ofInt d.source).toNat + r : Nat) = cell (d.source + r) := by
    apply Fin.ext
    simp only [cell, toNat_wordOfInt, memorySize]
    omega
  have before : (cell ((UInt16.ofInt d.source).toNat + r : Nat)).val < displayStart :=
    place ▸ clear r hr
  calc
    (d.ready m).spriteByte x y r
      = (d.ready m).memory.get (cell ((UInt16.ofInt d.source).toNat + r : Nat)) :=
        Machine.getElem_afterRows (d.ready m) x y r (cell _).isLt before
    _ = d.byte m r := by rw [place]; rfl

/-- The second machine is the first one after the sprite was drawn. -/
structure Drawn (d : Sprite) (m m' : Machine) : Prop where
  pixel : ∀ px py, m'.pixel px py = (m.pixel px py ^^ d.covers m px py)
  below : m.SameBelow m'
  flag : m'.v.get flagRegister = 1 ↔ ∃ px py, d.covers m px py ∧ m.pixel px py

theorem drawn_of_blitted {d : Sprite} (clear : d.Clear) {m m' : Machine}
    (h : (d.ready m).Blitted m' d.column d.line d.rows ((d.ready m).spriteByte d.column d.line)) :
    d.Drawn m m' where
  pixel px py := by
    by_cases area : ∃ r < d.rows.val, ∃ c : Fin spriteWidth,
        px = Chip8.column (d.column + c) ∧ py = Chip8.line (d.line + r)
    · obtain ⟨r, hr, c, rfl, rfl⟩ := area
      rw [h.drawn r hr c, spriteByte_ready clear m _ _ hr, ← bitAt_eq_testBit, d.covers_at m hr c]
      rfl
    · have bare : d.covers m px py = false := by
        rw [Bool.eq_false_iff, ne_eq, covers_iff]
        rintro ⟨r, hr, c, hx, hy, -⟩
        exact area ⟨r, hr, c, hx, hy⟩
      rw [bare, Bool.xor_false]
      exact h.others px py fun r hr c hx hy => area ⟨r, hr, c, hx, hy⟩
  below a ha := h.outside a ha
  flag := by
    obtain ⟨hit, hv, hiff⟩ := h.flag
    have set : m'.v.get flagRegister = if hit then 1 else 0 := by
      rw [hv]
      exact Vector.getElem_set_self flagRegister.isLt
    have one : m'.v.get flagRegister = 1 ↔ hit = true := by
      rw [set]
      cases hit <;> decide
    rw [one, hiff]
    constructor
    · rintro ⟨r, hr, c, lit, bit⟩
      rw [spriteByte_ready clear m _ _ hr, ← bitAt_eq_testBit] at bit
      exact ⟨_, _, covers_iff.mpr ⟨r, hr, c, rfl, rfl, bit⟩, lit⟩
    · rintro ⟨px, py, covered, lit⟩
      obtain ⟨r, hr, c, rfl, rfl, bit⟩ := covers_iff.mp covered
      refine ⟨r, hr, c, lit, ?_⟩
      rw [spriteByte_ready clear m _ _ hr, ← bitAt_eq_testBit]
      exact bit

/-- **What a draw does** does not hang on what else was drawn. -/
theorem yields_draw {d : Sprite} (clear : d.Clear) (m : Machine) :
    ∃ m', d.draw.Yields m () m' ∧ d.Drawn m m' := by
  obtain ⟨hx, hy, hn⟩ := d.operands_opcode
  have few : d.rows.val ≤ displayHeight := Nat.le_trans (Nat.le_of_lt d.rows.isLt) (by decide)
  obtain ⟨l, m', course, blitted, -⟩ := System.course_draw d.x d.y few (d.ready m)
  rw [d.get_ready_x, d.get_ready_y] at blitted
  have encoded : Operation.draw.Encoded d.opcode.toNat := by
    have hx : d.x.val < 16 := d.x.isLt
    have hy : d.y.val < 16 := d.y.isLt
    have hn := d.rows.isLt
    simp only [Operation.Encoded, toNat_opcode]
    omega
  have drawn : (System.draw (Operands.ofOpcode d.opcode).x (Operands.ofOpcode d.opcode).y
      (Operands.ofOpcode d.opcode).n).Yields (d.ready m) () m' := by
    rw [hx, hy, hn]
    exact ⟨l, course⟩
  have executed : (execute (.ofOpcode d.opcode)).Yields (d.ready m) none m' := by
    rw [execute_of_encoded encoded]
    exact .bind ⟨_, course_look _⟩ (.bind drawn ⟨_, course_pure _ _⟩)
  refine ⟨m', ?_, drawn_of_blitted clear blitted⟩
  exact .bind ⟨_, course_setV _ _ m⟩ (.bind ⟨_, course_setV _ _ _⟩ (.bind ⟨_, course_setI _ _⟩
    (.bind executed ⟨_, course_pure _ _⟩)))

/-- After many draws a pixel is flipped if an odd number of them cover it. -/
theorem yields_drawAll {ds : List Sprite} (clear : ∀ d ∈ ds, d.Clear) (m : Machine) :
    ∃ m', (drawAll ds).Yields m () m' ∧ m.SameBelow m' ∧ ∀ px py,
      m'.pixel px py = (m.pixel px py ^^ (ds.countP (·.covers m px py)).bodd) := by
  induction ds generalizing m with
  | nil => exact ⟨m, ⟨_, course_pure _ m⟩, fun _ _ => rfl, by simp⟩
  | cons d rest ih =>
    obtain ⟨first, later⟩ := List.forall_mem_cons.mp clear
    obtain ⟨m₁, drawn, one⟩ := yields_draw first m
    obtain ⟨m', drawnAll, below, pixel⟩ := ih later m₁
    refine ⟨m', drawn.bind drawnAll, fun a ha => (below a ha).trans (one.below a ha),
      fun px py => ?_⟩
    have same : rest.countP (·.covers m₁ px py) = rest.countP (·.covers m px py) :=
      List.countP_congr fun d hd => by rw [covers_congr (later d hd) one.below]
    rw [pixel, one.pixel, same, List.countP_cons, Bool.xor_assoc]
    cases d.covers m px py <;> simp [Nat.bodd_succ]

theorem run_drawAll {ω : Type} [Observers ω] (calm : Observers.Calm ω) (s : System ω)
    {ds : List Sprite} (clear : ∀ d ∈ ds, d.Clear) : (run (drawAll ds) s).1 = .ok () ∧
      s.machine.SameBelow (run (drawAll ds) s).2.machine ∧ ∀ px py,
        (run (drawAll ds) s).2.machine.pixel px py =
          (s.machine.pixel px py ^^ (ds.countP (·.covers s.machine px py)).bodd) := by
  obtain ⟨m', yields, drawn⟩ := yields_drawAll clear s.machine
  obtain ⟨result, machine⟩ := run_of_yields calm yields
  rw [result, machine]
  exact ⟨rfl, drawn⟩

/-- Where draws cover each pixel as often, or twice more, the memory is the same. -/
theorem memory_drawAll {ω : Type} [Observers ω] (calm : Observers.Calm ω) (s : System ω)
    {ds ds' : List Sprite} (clear : ∀ d ∈ ds, d.Clear) (clear' : ∀ d ∈ ds', d.Clear)
    (same : ∀ p : Sprite → Bool, (ds'.countP p).bodd = (ds.countP p).bodd) :
    (run (drawAll ds') s).2.machine.memory = (run (drawAll ds) s).2.machine.memory := by
  obtain ⟨-, below, pixel⟩ := run_drawAll calm s clear
  obtain ⟨-, below', pixel'⟩ := run_drawAll calm s clear'
  refine Machine.memory_ext (fun a ha => (below' a ha).trans (below a ha).symm) fun px py => ?_
  rw [pixel', pixel, same]

theorem run_draw {ω : Type} [Observers ω] (calm : Observers.Calm ω) {d : Sprite}
    (clear : d.Clear) (s : System ω) :
    (run d.draw s).1 = .ok () ∧ d.Drawn s.machine (run d.draw s).2.machine := by
  obtain ⟨m', yields, drawn⟩ := yields_draw clear s.machine
  obtain ⟨result, machine⟩ := run_of_yields calm yields
  rw [result, machine]
  exact ⟨rfl, drawn⟩

end Sprite

namespace System

/-- **Draws compose as exclusive or**: in any order, and without those that are made twice. One of
two equal draws sets the flag, unless the sprite is empty. -/
theorem draws_compose {ω : Type} [Observers ω] (calm : Observers.Calm ω) (s : System ω)
    {ds : List Sprite} (clear : ∀ d ∈ ds, d.Clear) :
    let after (l : List Sprite) := run (Sprite.drawAll l) s
    (∀ l : List Sprite, l.Perm ds →
      (after l).1 = .ok () ∧ (after l).2.machine.memory = (after ds).2.machine.memory)
    ∧ (∀ d : Sprite, d.Clear → ∀ l₁ l₂ l₃, ds = l₁ ++ l₂ ++ l₃ →
      let twice := l₁ ++ d :: (l₂ ++ d :: l₃)
      (after twice).1 = .ok () ∧ (after twice).2.machine.memory = (after ds).2.machine.memory)
    ∧ ∀ d : Sprite, d.Clear →
      let first := run d.draw s
      let second := run d.draw first.2
      first.1 = .ok () ∧ second.1 = .ok ()
        ∧ second.2.machine.memory = s.machine.memory
        ∧ ((first.2.machine.v.get flagRegister = 1 ∨ second.2.machine.v.get flagRegister = 1) ↔
          ∃ r < d.rows.val, ∃ c : Fin 8, (d.byte s.machine r).toNat.testBit (7 - c)) := by
  intro after
  refine ⟨fun l perm => ?_, fun d hd l₁ l₂ l₃ cut => ?_, fun d hd => ?_⟩
  · have clear' : ∀ d ∈ l, d.Clear := fun d hd => clear d (perm.mem_iff.mp hd)
    exact ⟨(Sprite.run_drawAll calm s clear').1,
      Sprite.memory_drawAll calm s clear clear' fun p => congrArg Nat.bodd (perm.countP_eq p)⟩
  · subst cut
    have clear' : ∀ e ∈ l₁ ++ d :: (l₂ ++ d :: l₃), e.Clear := by
      intro e he
      simp only [List.mem_append, List.mem_cons] at he clear
      rcases he with he | rfl | he | rfl | he
      · exact clear e (Or.inl (Or.inl he))
      · exact hd
      · exact clear e (Or.inl (Or.inr he))
      · exact hd
      · exact clear e (Or.inr he)
    refine ⟨(Sprite.run_drawAll calm s clear').1, Sprite.memory_drawAll calm s clear clear' ?_⟩
    intro p
    simp only [List.countP_append, List.countP_cons, Nat.bodd_add]
    cases p d <;> simp
  · obtain ⟨ok, one⟩ := Sprite.run_draw calm hd s
    obtain ⟨ok', two⟩ := Sprite.run_draw calm hd (run d.draw s).2
    have covers := Sprite.covers_congr hd one.below
    refine ⟨ok, ok', ?_, ?_⟩
    · refine Machine.memory_ext (fun a ha => (two.below a ha).trans (one.below a ha)) ?_
      intro px py
      rw [two.pixel, one.pixel, covers, Bool.xor_assoc, Bool.xor_self, Bool.xor_false]
    · rw [one.flag, two.flag, ← Sprite.exists_covers_iff]
      constructor
      · rintro (⟨px, py, covered, -⟩ | ⟨px, py, covered, -⟩)
        · exact ⟨px, py, covered⟩
        · exact ⟨px, py, (covers px py).symm.trans covered⟩
      · rintro ⟨px, py, covered⟩
        -- a pixel that is off before the first draw is on before the second
        cases lit : s.machine.pixel px py
        · refine Or.inr ⟨px, py, (covers px py).trans covered, ?_⟩
          rw [one.pixel, covered, lit]
          rfl
        · exact Or.inl ⟨px, py, covered, lit⟩

/-- Two glyphs over the lower right corner, with the flag register for their coordinates. -/
theorem draws_compose_corner :
    let s : System Transcript := ⟨Machine.powerOn .unseeded, [⟨.monitor, none⟩], ⟨[]⟩, []⟩
    let after (l : List Sprite) := run (Sprite.drawAll l) s
    let d : Sprite := ⟨flagRegister, flagRegister, 61, 61, 0, ⟨5, by decide⟩⟩
    let e : Sprite := ⟨⟨0, by decide⟩, flagRegister, 62, -195, 4101, ⟨5, by decide⟩⟩
    (after [e, d]).1 = .ok () ∧ (after [e, d]).2.machine.memory = (after [d, e]).2.machine.memory
      ∧ (after [e, d, e, e]).2.machine.memory = (after [d, e]).2.machine.memory
      ∧ (run e.draw (run e.draw s).2).2.machine.memory = s.machine.memory := by
  intro s after d e
  have clear : ∀ x ∈ [d, e], x.Clear := by decide
  have clear_e : e.Clear := clear e (List.mem_cons_of_mem d List.mem_cons_self)
  obtain ⟨order, twice, again⟩ := draws_compose calm_transcript s clear
  obtain ⟨ok, same⟩ := order [e, d] (List.Perm.swap d e [])
  refine ⟨ok, same, ?_, (again e clear_e).2.2.1⟩
  exact (twice e clear_e [] [d] [e] rfl).2

end System

end Chip8

import Chip8.Picture.BitPlane

/-!
# Access to single bits

An index of a bit plane stands for one of its bits, or it is refused.

* `BitPlane.Within` bounds the indices that stand for bits; `get_of_within` and `set_of_within`
  name the bit, by the residue of the index, and `get_refused_iff` and `set_refused_iff` say that
  all other indices are refused.
* `bit_assign`: the bit that is set changes, and no other.
-/

namespace Chip8

namespace BitPlane

variable {n : Nat}

/-- The indices that stand for bits, counted from either end. -/
def Within (p : BitPlane n) (i : Int) : Prop := -(p.length : Int) ≤ i ∧ i < p.length

instance (p : BitPlane n) (i : Int) : Decidable (p.Within i) :=
  inferInstanceAs (Decidable (-(p.length : Int) ≤ i ∧ i < p.length))

/-- The byte of the window that holds a position. -/
def byteOf (p : BitPlane n) (k : Fin p.length) : Fin p.window.size :=
  ⟨k / 8, by have := k.isLt; simp only [length] at this; omega⟩

/-- The place of a position in its byte. -/
def placeOf (k : Nat) : Fin 8 := ⟨k % 8, by omega⟩

/-- The bit at a position. -/
def bit (p : BitPlane n) (k : Fin p.length) : Bool :=
  p.window.bit p.buffer (p.byteOf k) (placeOf k)

/-- The plane with the bit at a position replaced. -/
def assign (p : BitPlane n) (k : Fin p.length) (v : Bool) : BitPlane n :=
  { p with buffer := p.window.setBit p.buffer (p.byteOf k) (placeOf k) v }

/-- The position that an index stands for. -/
def position (p : BitPlane n) {i : Int} (h : p.Within i) : Fin p.length :=
  ⟨(i % p.length).toNat, by
    obtain ⟨low, high⟩ := h
    have nonneg := Int.emod_nonneg i (show (p.length : Int) ≠ 0 by omega)
    have small := Int.emod_lt_of_pos i (show (0 : Int) < p.length by omega)
    omega⟩

theorem position_eq_iff (p : BitPlane n) {i j : Int} (hi : p.Within i) (hj : p.Within j) :
    p.position hi = p.position hj ↔ i % p.length = j % p.length := by
  obtain ⟨low, high⟩ := hi
  have filled : (p.length : Int) ≠ 0 := by omega
  have left := Int.emod_nonneg i filled
  have right := Int.emod_nonneg j filled
  simp only [position, Fin.mk.injEq]
  omega

/-- Among the indices of a store of some size, a negative one is its residue less the size. -/
theorem emod_of_bounds {size i : Int} (low : -size ≤ i) (high : i < size) :
    i % size = if i < 0 then i + size else i := by
  by_cases sign : i < 0
  · rw [if_pos sign, ← Int.add_emod_right, Int.emod_eq_of_lt (by omega) (by omega)]
  · rw [if_neg sign, Int.emod_eq_of_lt (by omega) high]

theorem splitIndex_of_within (p : BitPlane n) {i : Int} (h : p.Within i) :
    splitIndex i = (i / 8, placeOf (p.position h)) := by
  obtain ⟨low, high⟩ := h
  have residue := emod_of_bounds low high
  simp only [splitIndex, position, placeOf, Prod.mk.injEq, Fin.mk.injEq, true_and, residue]
  simp only [length] at low high ⊢
  split <;> omega

theorem resolve_of_within (p : BitPlane n) (small : fitsWord p.window.size) {i : Int}
    (h : p.Within i) :
    resolveIndex p.kind p.window.size (i / 8) = .ok (p.byteOf (p.position h)) := by
  obtain ⟨low, high⟩ := h
  have residue := emod_of_bounds low high
  simp only [fitsWord, Bool.and_eq_true, decide_eq_true_eq] at small
  simp only [length] at low high residue
  have first : -(p.window.size : Int) ≤ i / 8 := by omega
  have last : i / 8 < p.window.size := by omega
  have byte := emod_of_bounds first last
  apply (resolveIndex_eq_ok_iff (by omega)).mpr
  refine ⟨first, last, ?_⟩
  simp only [byteOf, position, length, residue, byte]
  split <;> split <;> omega

theorem resolve_of_not_within (p : BitPlane n) (small : fitsWord p.window.size) {i : Int}
    (h : ¬ p.Within i) : ∃ fault, resolveIndex p.kind p.window.size (i / 8) = .error fault := by
  simp only [fitsWord, Bool.and_eq_true, decide_eq_true_eq] at small
  cases resolved : resolveIndex p.kind p.window.size (i / 8) with
  | error fault => exact ⟨fault, rfl⟩
  | ok k =>
    obtain ⟨low, high, -⟩ := (resolveIndex_eq_ok_iff (by omega)).mp resolved
    apply absurd _ h
    simp only [Within, length]
    omega

theorem get_of_within (p : BitPlane n) (small : fitsWord p.window.size) {i : Int}
    (h : p.Within i) : p.get i = .ok (p.bit (p.position h)) :=
  p.get_of_resolve (p.splitIndex_of_within h) (p.resolve_of_within small h)

theorem set_of_within (p : BitPlane n) (small : fitsWord p.window.size) {i : Int}
    (h : p.Within i) (v : Bool) : p.set i v = .ok (p.assign (p.position h) v) :=
  p.set_of_resolve (p.splitIndex_of_within h) (p.resolve_of_within small h) v

theorem get_refused_iff (p : BitPlane n) (small : fitsWord p.window.size) {i : Int} :
    (∃ fault, p.get i = .error fault) ↔ ¬ p.Within i := by
  constructor
  · rintro ⟨fault, refused⟩ h
    rw [p.get_of_within small h] at refused
    cases refused
  · intro h
    obtain ⟨fault, refused⟩ := p.resolve_of_not_within small h
    exact ⟨fault, by simp only [get, splitIndex, refused, bind, Except.bind]⟩

theorem set_refused_iff (p : BitPlane n) (small : fitsWord p.window.size) {i : Int} {v : Bool} :
    (∃ fault, p.set i v = .error fault) ↔ ¬ p.Within i := by
  constructor
  · rintro ⟨fault, refused⟩ h
    rw [p.set_of_within small h] at refused
    cases refused
  · intro h
    obtain ⟨fault, refused⟩ := p.resolve_of_not_within small h
    exact ⟨fault, by simp only [set, splitIndex, refused, bind, Except.bind]⟩

theorem bit_assign (p : BitPlane n) (k l : Fin p.length) (v : Bool) :
    (p.assign k v).bit l = if l = k then v else p.bit l := by
  have same : p.byteOf l = p.byteOf k ∧ placeOf l = placeOf k ↔ l = k := by
    simp only [byteOf, placeOf, Fin.ext_iff]
    omega
  have set := p.window.bit_setBit p.buffer (p.byteOf k) (p.byteOf l) (placeOf k) (placeOf l) v
  simp only [same] at set
  exact set

/-- Only bytes of the window change. -/
theorem getElem_assign_of_outside (p : BitPlane n) (k : Fin p.length) (v : Bool) {a : Nat}
    (ha : a < n) (h : a < p.window.start ∨ p.window.start + p.window.size ≤ a) :
    (p.assign k v).buffer[a] = p.buffer[a] :=
  p.window.getElem_setBit_of_outside p.buffer _ _ v ha h

/-- **Bit access is exact.** An index is refused, for reading as for writing, exactly if it lies
outside the plane counted from either end; a refusal gives no plane, so that the buffer stays as it
is. Any other index writes the bit of its residue: reading gives the new value at every index of
that residue, and the old one at all others. No byte outside the window changes. A window has less
than 2⁶³ bytes. -/
theorem access_exact (p : BitPlane n) (small : fitsWord p.window.size) (i : Int) (v : Bool) :
    ((∃ fault, p.get i = .error fault) ↔ ¬ p.Within i) ∧
    ((∃ fault, p.set i v = .error fault) ↔ ¬ p.Within i) ∧
    (p.Within i → ∃ buffer, p.set i v = .ok { p with buffer := buffer } ∧
      (∀ j, p.Within j → ∃ old, p.get j = .ok old ∧
        BitPlane.get { p with buffer := buffer } j
          = .ok (if j % p.length = i % p.length then v else old)) ∧
      ∀ (a : Nat) (ha : a < n), a < p.window.start ∨ p.window.start + p.window.size ≤ a →
        buffer[a] = p.buffer[a]) := by
  refine ⟨p.get_refused_iff small, p.set_refused_iff small, fun hi => ?_⟩
  let q := p.assign (p.position hi) v
  refine ⟨q.buffer, p.set_of_within small hi v, ?_, ?_⟩
  · intro j hj
    refine ⟨p.bit (p.position hj), p.get_of_within small hj, ?_⟩
    have read : q.get j = .ok (q.bit (p.position hj)) := q.get_of_within small hj
    have written : q.bit (p.position hj)
        = if p.position hj = p.position hi then v else p.bit (p.position hj) :=
      p.bit_assign (p.position hi) (p.position hj) v
    simp only [position_eq_iff] at written
    exact read.trans (congrArg Except.ok written)
  · intro a ha outside
    exact p.getElem_assign_of_outside (p.position hi) v ha outside

/-- The last two bytes of four: the index -7 stands for the same bit as 9, and -17 for none. -/
theorem access_exact_window :
    let p : BitPlane 4 := .ofWindow #v[0xFF, 0, 0, 0] (Window.slice 4 2 4)
    fitsWord p.window.size ∧ p.Within 9 ∧ p.Within (-7) ∧ ¬ p.Within (-17) ∧
      (∃ fault, p.get (-17) = .error fault) ∧
      ∃ buffer, p.set 9 true = .ok { p with buffer := buffer } ∧
        BitPlane.get { p with buffer := buffer } (-7) = .ok true ∧ buffer[0] = 0xFF := by
  intro p
  have small : fitsWord p.window.size := by decide
  have nine : p.Within 9 := by decide
  have other : p.Within (-7) := by decide
  have beyond : ¬ p.Within (-17) := by decide
  obtain ⟨-, -, assigned⟩ := access_exact p small 9 true
  obtain ⟨refused, -⟩ := access_exact p small (-17) true
  obtain ⟨buffer, set, read, outside⟩ := assigned nine
  obtain ⟨old, -, now⟩ := read (-7) other
  exact ⟨small, nine, other, beyond, refused.mpr beyond, buffer, set, now,
    outside 0 (by decide) (by decide)⟩

end BitPlane

end Chip8

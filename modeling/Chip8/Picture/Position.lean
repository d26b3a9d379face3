import Chip8.Number.Word

/-!
# Positions counted from either end

An index at or above zero counts from the start of a store, a negative one from
its end. `resolveIndex` gives the position or the reason why there is none:

* `resolveIndex_eq_ok_iff`: an index between `-size` and `size` has the position congruent to it;
* every other index has none.
-/

namespace Chip8

/-- The kinds of store that an index may go into. -/
inductive StoreKind where
  /-- Bytes that cannot be changed. -/
  | bytes
  /-- A buffer of bytes of its own. -/
  | buffer
  /-- A list of numbers. -/
  | list
  /-- Part of a buffer that something else owns. -/
  | window
  deriving DecidableEq

inductive IndexFault where
  /-- It lies outside the store. -/
  | outside (kind : StoreKind)
  /-- It does not fit a signed 64-bit word. -/
  | tooWide
  deriving DecidableEq

def IndexFault.message : IndexFault → String
  | .outside .bytes => "index out of range"
  | .outside .buffer => "bytearray index out of range"
  | .outside .list => "list index out of range"
  | .outside .window => "index out of bounds on dimension 1"
  | .tooWide => "cannot fit 'int' into an index-sized integer"

/-- The position of an index in a store of the given size. -/
def resolveIndex (kind : StoreKind) (size : Nat) (i : Int) : Except IndexFault (Fin size) :=
  if fitsWord i then
    if h : 0 ≤ i ∧ i < size then .ok ⟨i.toNat, by omega⟩
    else if h : i < 0 ∧ 0 ≤ i + size then .ok ⟨(i + size).toNat, by omega⟩
    else .error (.outside kind)
  else .error .tooWide

/-- For stores of less than 2⁶³ items the positions are the indices from `-size` up to `size`. -/
theorem resolveIndex_eq_ok_iff {kind : StoreKind} {size : Nat} (hs : size < 0x8000000000000000)
    {i : Int} {p : Fin size} :
    resolveIndex kind size i = .ok p ↔ -(size : Int) ≤ i ∧ i < size ∧ (p : Int) = i % size := by
  have hp := p.isLt
  unfold resolveIndex
  by_cases hw : fitsWord i
  · simp only [hw, if_true]
    by_cases h : 0 ≤ i ∧ i < size
    · rw [dif_pos h, Int.emod_eq_of_lt h.1 h.2, Except.ok.injEq, Fin.ext_iff]
      simp only
      omega
    · rw [dif_neg h]
      by_cases h' : i < 0 ∧ 0 ≤ i + size
      · have e : i % size = i + size := by
          rw [← Int.add_emod_right, Int.emod_eq_of_lt h'.2 (by omega)]
        rw [dif_pos h', e, Except.ok.injEq, Fin.ext_iff]
        simp only
        omega
      · rw [dif_neg h']
        constructor
        · intro hc; cases hc
        · intro ⟨h1, h2, _⟩; omega
  · simp only [hw]
    simp only [fitsWord, Bool.and_eq_true, decide_eq_true_eq, not_and] at hw
    constructor
    · intro hc; cases hc
    · intro ⟨h1, h2, _⟩; exact absurd (hw (by omega)) (by omega)

theorem resolveIndex_natCast (kind : StoreKind) {size : Nat} (hs : size < 0x8000000000000000)
    (p : Fin size) : resolveIndex kind size ((p : Nat) : Int) = .ok p := by
  have := p.isLt
  rw [resolveIndex_eq_ok_iff hs]
  refine ⟨by omega, by omega, ?_⟩
  rw [Int.emod_eq_of_lt (by omega) (by omega)]

end Chip8

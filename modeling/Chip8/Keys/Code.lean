import Chip8.Number.Whole
import Chip8.State.Machine

/-!
# Key codes

A key as a caller names it. Truth values count as one or zero where codes are compared,
but no key can be pressed by one.
-/

namespace Chip8

/-- A key as a caller names it. -/
abbrev KeyCode := WholeNumber

namespace KeyCode

def ofKey (k : Key) : KeyCode := .integer (k : Nat)

/-- The key that can be pressed by the code. -/
def key? : KeyCode → Option Key
  | .integer n => if h : 0 ≤ n ∧ n < keyCount then some ⟨n.toNat, by omega⟩ else none
  | .truth _ => none

theorem key?_ofKey (k : Key) : (ofKey k).key? = some k := by
  have h := k.isLt
  have : (0 : Int) ≤ (k : Nat) ∧ ((k : Nat) : Int) < keyCount := ⟨by omega, by omega⟩
  simp only [ofKey, key?, dif_pos this, Option.some.injEq, Fin.ext_iff]
  omega

theorem eq_ofKey_of_key? {c : KeyCode} {k : Key} (h : c.key? = some k) : c = ofKey k := by
  cases c with
  | truth b => simp [key?] at h
  | integer n =>
    simp only [key?] at h
    split at h
    · rename_i hn
      obtain rfl := Option.some.inj h
      simp only [ofKey, WholeNumber.integer.injEq]
      omega
    · cases h

end KeyCode

end Chip8

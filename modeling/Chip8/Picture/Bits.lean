/-!
# Bits of a byte

The bits of a byte, the most significant first.

* `bitAt_withBit`: setting a bit changes that bit and no other;
* `bitsOf` lists the eight bits, and `bitText` writes bits as digits.
-/

namespace Chip8

/-- The bit at a place, counted from the most significant. -/
def bitAt (b : UInt8) (k : Fin 8) : Bool := b.toBitVec.getMsbD k

/-- The byte with the bit at a place replaced. -/
def withBit (b : UInt8) (k : Fin 8) (v : Bool) : UInt8 :=
  let mask := BitVec.twoPow 8 (7 - k)
  UInt8.ofBitVec (if v then b.toBitVec ||| mask else b.toBitVec &&& ~~~mask)

def bitsOf (b : UInt8) : List Bool := (List.finRange 8).map (bitAt b)

def popCount (b : UInt8) : Nat := (bitsOf b).count true

def bitText (bits : List Bool) : String := String.ofList (bits.map fun v => if v then '1' else '0')

theorem bitAt_withBit (b : UInt8) (k j : Fin 8) (v : Bool) :
    bitAt (withBit b k v) j = if j = k then v else bitAt b j := by
  have hk := k.isLt
  have hj := j.isLt
  simp only [bitAt, withBit, BitVec.getMsbD]
  have hj' : (j : Nat) < 8 := hj
  simp only [hj', decide_true, Bool.true_and]
  by_cases hjk : j = k
  · subst hjk
    cases v <;> simp [BitVec.getLsbD_twoPow]
    omega
  · have hne : 7 - (k : Nat) ≠ 8 - 1 - (j : Nat) := by
      intro h; apply hjk; ext; omega
    cases v <;> simp [BitVec.getLsbD_twoPow, hjk, hne]
    omega

end Chip8

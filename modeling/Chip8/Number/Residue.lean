import Chip8.Number.Binary64

/-!
# Words for binary64 numbers

A number is a mantissa times a power of two, so it has a residue modulo the prime
`2 ^ 61 - 1`: there `2 ^ 61` counts as one, and a negative exponent comes to the same as its
remainder by 61. Equal numbers have equal residues, and a whole number below the prime is
its own.
-/

namespace Chip8.Binary64

def residuePrime : Nat := 0x1FFFFFFFFFFFFFFF

/-- The residue of `mantissa * 2 ^ exponent`. -/
def magnitudeResidue (mantissa : Nat) (exponent : Int) : Nat :=
  mantissa * Nat.pow 2 (exponent % 61).toNat % residuePrime

/-- The integer that stands for a number: its residue with its sign, minus two for minus one,
and a number of its own for infinity. -/
def residue (x : Binary64) : Int :=
  match x.value with
  | .nan => 0
  | .infinite s => if s then -314159 else 314159
  | .finite s mantissa exponent =>
    let r : Int := magnitudeResidue mantissa exponent
    if !s then r else if r = 1 then -2 else -r

/-- That integer as a 64-bit word in two's complement. -/
def residueWord (x : Binary64) : Nat := (x.residue % 0x10000000000000000).toNat

end Chip8.Binary64

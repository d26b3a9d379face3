import Chip8.Number.Shortest

/-!
# Numbers

The numbers of settings and keymaps: integers, truth values and binary64 numbers.

* A truth value counts as one or zero in arithmetic and comparison, and keeps its own name in text.
* `Number.same` compares by exact value across the three kinds.
-/

namespace Chip8

/-- A number as it was written. -/
inductive Number where
  | integer (n : Int)
  | truth (b : Bool)
  | float (x : Binary64)
  deriving DecidableEq

namespace Number

def text : Number → String
  | .integer n => toString n
  | .truth true => "True"
  | .truth false => "False"
  | .float x => DecimalLayout.plain.text x

def ofTruth (b : Bool) : Int := if b then 1 else 0

def nonpositive : Number → Bool
  | .integer n => n ≤ 0
  | .truth b => !b
  | .float x => x.nonpositive

/-- Why a number has no whole part. -/
inductive WholeFault where
  | nan
  | infinite
  deriving DecidableEq

/-- The whole part, cut towards zero. -/
def whole : Number → Except WholeFault Int
  | .integer n => return n
  | .truth b => return ofTruth b
  | .float x =>
    match x.value with
    | .nan => throw .nan
    | .infinite _ => throw .infinite
    | .finite s mantissa exponent =>
      let (n, d) := Binary64.magnitudeRatio mantissa exponent
      return if s then -((n / d : Nat) : Int) else ((n / d : Nat) : Int)

/-- The nearest binary64 number; an integer beyond the largest has none. -/
def binary64? : Number → Option Binary64
  | .integer n => let x := Binary64.ofInt n; if x.isInfinite then none else some x
  | .truth b => some (Binary64.ofInt (ofTruth b))
  | .float x => some x

/-- The exact value of an integer, as a binary64 value is given. -/
def exact : Number → Binary64.Value
  | .integer n => .finite (n < 0) n.natAbs 0
  | .truth b => .finite false (ofTruth b).natAbs 0
  | .float x => x.value

/-- Two finite magnitudes are equal. -/
def sameMagnitude (m : Nat) (e : Int) (m' : Nat) (e' : Int) : Bool :=
  let (n, d) := Binary64.magnitudeRatio m e
  let (n', d') := Binary64.magnitudeRatio m' e'
  n * d' == n' * d

/-- Equal in value. What is no number counts as the same as itself. -/
def same (a b : Number) : Bool :=
  match a.exact, b.exact with
  | .nan, .nan => true
  | .infinite s, .infinite s' => s == s'
  | .finite s m e, .finite s' m' e' =>
    if m = 0 ∧ m' = 0 then true else s == s' && sameMagnitude m e m' e'
  | _, _ => false

end Number

end Chip8

/-!
# Binary64 numbers

Floating-point numbers as bit patterns, with exact arithmetic on naturals:

* `Binary64.value` reads a pattern as a signed mantissa times a power of two;
* `Binary64.ofRatio` rounds a ratio of naturals to the nearest number, a tie to the
  even mantissa, and past the largest number to infinity;
* reading decimals, converting integers and taking reciprocals are all roundings of a ratio.
-/

namespace Chip8

/-- A binary64 number, given by its pattern: sign, eleven exponent bits, 52 fraction bits. -/
structure Binary64 where
  bits : UInt64
  deriving DecidableEq

namespace Binary64

/-- What a pattern stands for; a finite number is `mantissa * 2 ^ exponent`, up to its sign. -/
inductive Value where
  | nan
  | infinite (negative : Bool)
  | finite (negative : Bool) (mantissa : Nat) (exponent : Int)
  deriving DecidableEq

def negative (x : Binary64) : Bool := Nat.pow 2 63 ≤ x.bits.toNat

def exponentField (x : Binary64) : Nat := x.bits.toNat / Nat.pow 2 52 % Nat.pow 2 11

def fraction (x : Binary64) : Nat := x.bits.toNat % Nat.pow 2 52

def value (x : Binary64) : Value :=
  if x.exponentField = 2047 then
    if x.fraction = 0 then .infinite x.negative else .nan
  else if x.exponentField = 0 then .finite x.negative x.fraction (-1074)
  else .finite x.negative (Nat.pow 2 52 + x.fraction) (x.exponentField - 1075)

/-- The pattern with a sign and the given lower 63 bits. -/
def ofFields (negative : Bool) (magnitude : Nat) : Binary64 :=
  ⟨UInt64.ofNat ((if negative then Nat.pow 2 63 else 0) + magnitude)⟩

def infinity (negative : Bool) : Binary64 := ofFields negative (2047 * Nat.pow 2 52)

/-- The quiet number that is none. -/
def nan : Binary64 := ofFields false (2047 * Nat.pow 2 52 + Nat.pow 2 51)

/-- The ratio rounded to the nearest natural, a tie to the even one. -/
def roundHalfEven (num den : Nat) : Nat :=
  let q := num / den
  let r := num % den
  if 2 * r < den then q
  else if den < 2 * r then q + 1
  else q + q % 2

/-- The ratio `num / den / 2 ^ e` as numerator and denominator. -/
def scaled (num den : Nat) (e : Int) : Nat × Nat :=
  if 0 ≤ e then (num, den * Nat.pow 2 e.toNat) else (num * Nat.pow 2 (-e).toNat, den)

/-- The exponent at which the ratio has a mantissa of 53 bits, or the least exponent. -/
def exponentOf (num den : Nat) : Int :=
  let e := max (-1074) ((num.log2 : Int) - den.log2 - 53)
  let (n, d) := scaled num den e
  if n / d < Nat.pow 2 53 then e else e + 1

/-- The number nearest to `num / den`. -/
def ofRatio (negative : Bool) (num den : Nat) : Binary64 :=
  let e := exponentOf num den
  let (n, d) := scaled num den e
  let mantissa := roundHalfEven n d
  if mantissa < Nat.pow 2 52 then ofFields negative mantissa
  else
    let magnitude := (e + 1074).toNat * Nat.pow 2 52 + mantissa
    if magnitude < 2047 * Nat.pow 2 52 then ofFields negative magnitude else infinity negative

def ofInt (n : Int) : Binary64 := ofRatio (n < 0) n.natAbs 1

/-- The number nearest to `digits * 10 ^ exponent`. Beyond four hundred places on either
side of the point every number is infinite or zero. -/
def ofDecimal (negative : Bool) (digits : Nat) (exponent : Int) : Binary64 :=
  let order := exponent + (digits.log2 / 3 : Nat)
  if digits = 0 then ofFields negative 0
  else if exponent > 400 then infinity negative
  else if order < -400 then ofFields negative 0
  else if 0 ≤ exponent then ofRatio negative (digits * Nat.pow 10 exponent.toNat) 1
  else ofRatio negative digits (Nat.pow 10 (-exponent).toNat)

/-- A mantissa and its exponent as a ratio. -/
def magnitudeRatio (mantissa : Nat) (exponent : Int) : Nat × Nat :=
  if 0 ≤ exponent then (mantissa * Nat.pow 2 exponent.toNat, 1)
  else (mantissa, Nat.pow 2 (-exponent).toNat)

/-- A mantissa and its exponent as a rational. -/
def exact (negative : Bool) (mantissa : Nat) (exponent : Int) : Rat :=
  let (n, d) := magnitudeRatio mantissa exponent
  mkRat (if negative then -n else n) d

/-- One divided by the number, if it is not zero. -/
def reciprocal? (x : Binary64) : Option Binary64 :=
  match x.value with
  | .nan => some nan
  | .infinite s => some (ofFields s 0)
  | .finite s mantissa exponent =>
    if mantissa = 0 then none
    else
      let (n, d) := magnitudeRatio mantissa exponent
      some (ofRatio s d n)

/-- Zero of either sign, or below it. -/
def nonpositive (x : Binary64) : Bool :=
  match x.value with
  | .nan => false
  | .infinite s => s
  | .finite s mantissa _ => s || mantissa = 0

def isInfinite (x : Binary64) : Bool :=
  match x.value with
  | .infinite _ => true
  | _ => false

end Binary64

end Chip8

import Chip8.Number.Binary64

/-!
# Shortest decimals

The decimal that stands for a binary64 number:

* with as few digits as possible it lies among the reals that round to the number;
* of the decimals with that many digits it is the nearest to the number, a tie to the even digit;
* `DecimalLayout` says how such digits are laid out as text.
-/

namespace Chip8

/-- The decimal `digits * 10 ^ exponent`. -/
structure Decimal where
  digits : Nat
  exponent : Int
  deriving DecidableEq

namespace Binary64

/-- The greatest `k` from `low` up to `low + steps` with `10 ^ k ≤ num / den`. -/
def decimalOrder (num den : Nat) (low : Int) : Nat → Int
  | 0 => low
  | steps + 1 =>
    let k := low + 1
    let fits :=
      if 0 ≤ k then den * Nat.pow 10 k.toNat ≤ num else den ≤ num * Nat.pow 10 (-k).toNat
    if fits then decimalOrder num den k steps else low

/-- The order of magnitude of a positive ratio in base ten. -/
def order (num den : Nat) : Int :=
  let bits := (num.log2 : Int) - den.log2
  decimalOrder num den (bits * 30103 / 100000 - 2) 4

/-- The reals that round to a positive number, on a grid of a quarter of its last place:
`low` and `high` bound them, `closed` says whether the bounds belong to them. -/
structure RoundingInterval where
  low : Nat
  mid : Nat
  high : Nat
  exponent : Int
  closed : Bool

/-- The interval of a mantissa and exponent. Below a power of two the grid is finer. -/
def roundingInterval (mantissa : Nat) (exponent : Int) : RoundingInterval where
  low := if mantissa = Nat.pow 2 52 ∧ -1074 < exponent then 4 * mantissa - 1 else 4 * mantissa - 2
  mid := 4 * mantissa
  high := 4 * mantissa + 2
  exponent := exponent - 2
  closed := mantissa % 2 = 0

/-- The interval as numerators over one denominator, in units of `10 ^ p`. -/
def RoundingInterval.onGrid (i : RoundingInterval) (p : Int) : Nat × Nat × Nat × Nat :=
  let up := Nat.pow 2 i.exponent.toNat * Nat.pow 10 (-p).toNat
  let down := Nat.pow 2 (-i.exponent).toNat * Nat.pow 10 p.toNat
  (i.low * up, i.mid * up, i.high * up, down)

/-- The decimal on the grid `10 ^ p` that stands for the number, if one does. -/
def RoundingInterval.decimal? (i : RoundingInterval) (p : Int) : Option Nat :=
  let (low, mid, high, den) := i.onGrid p
  let inside (d : Nat) : Bool :=
    if i.closed then low ≤ d * den && d * den ≤ high else low < d * den && d * den < high
  let d := mid / den
  match inside d, inside (d + 1) with
  | true, true =>
    let below := mid - d * den
    let above := (d + 1) * den - mid
    some (if below < above then d else if above < below then d + 1 else d + d % 2)
  | true, false => some d
  | false, true => some (d + 1)
  | false, false => none

/-- The first hit with `count` or more digits; with seventeen there always is one. -/
def RoundingInterval.shortestFrom (i : RoundingInterval) (top : Int) (count : Nat) : Nat → Decimal
  | 0 => ⟨0, 0⟩
  | more + 1 =>
    let p := top - (count - 1 : Nat)
    match i.decimal? p with
    | some d => ⟨d, p⟩
    | none => i.shortestFrom top (count + 1) more

/-- The shortest decimal for a mantissa and exponent. -/
def shortest (mantissa : Nat) (exponent : Int) : Decimal :=
  if mantissa = 0 then ⟨0, 0⟩
  else
    let (n, d) := magnitudeRatio mantissa exponent
    (roundingInterval mantissa exponent).shortestFrom (order n d) 1 17

end Binary64

/-- How the digits of a number are laid out. -/
structure DecimalLayout where
  /-- The least order of magnitude written with the point in place. -/
  positionalFrom : Int
  /-- The least order of magnitude written with an exponent again. -/
  positionalBelow : Int
  /-- The least count of exponent digits. -/
  exponentDigits : Nat
  /-- What follows the digits of a whole number. -/
  wholeSuffix : String
  /-- The name of the value that is no number. -/
  nanName : String
  infinityName : String

namespace DecimalLayout

/-- Decimal digits without the zeros at the end, and how many were dropped. -/
def stripZeros : Nat → Nat → Nat × Nat
  | 0, n => (n, 0)
  | fuel + 1, n =>
    if n ≠ 0 ∧ n % 10 = 0 then
      let (m, k) := stripZeros fuel (n / 10)
      (m, k + 1)
    else (n, 0)

def magnitude (l : DecimalLayout) (x : Decimal) : String :=
  let (digits, dropped) := stripZeros 20 x.digits
  let text := (toString digits).toList
  let order : Int := x.exponent + dropped + (text.length - 1 : Nat)
  if l.positionalFrom ≤ order ∧ order < l.positionalBelow then
    if order < 0 then
      "0." ++ String.ofList (List.replicate (-order - 1).toNat '0' ++ text)
    else
      let whole := order.toNat + 1
      if text.length ≤ whole then
        String.ofList (text ++ List.replicate (whole - text.length) '0') ++ l.wholeSuffix
      else String.ofList (text.take whole) ++ "." ++ String.ofList (text.drop whole)
  else
    let mantissa := match text with
      | [] => ""
      | [d] => String.singleton d
      | d :: rest => String.ofList (d :: '.' :: rest)
    let places := (toString order.natAbs).toList
    let sign := if order < 0 then "-" else "+"
    mantissa ++ "e" ++ sign
      ++ String.ofList (List.replicate (l.exponentDigits - places.length) '0' ++ places)

def text (l : DecimalLayout) (x : Binary64) : String :=
  let signed (negative : Bool) (s : String) := if negative then "-" ++ s else s
  match x.value with
  | .nan => l.nanName
  | .infinite s => signed s l.infinityName
  | .finite s mantissa exponent =>
    signed s (if mantissa = 0 then "0" ++ l.wholeSuffix
      else l.magnitude (Binary64.shortest mantissa exponent))

/-- Numbers in messages: the point in place from 10⁻⁴ up to 10¹⁶, whole numbers with `.0`. -/
def plain : DecimalLayout := ⟨-4, 16, 2, ".0", "nan", "inf"⟩

/-- Numbers in stored settings, which name the exceptional values in full. -/
def stored : DecimalLayout := ⟨-4, 16, 2, ".0", "NaN", "Infinity"⟩

end DecimalLayout

end Chip8

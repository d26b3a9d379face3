/-!
# Hexadecimal

Numbers and bytes in base sixteen:

* `HexCase.nat` writes a number with at least a given count of digits, `HexCase.int` puts a
  sign in front and counts it towards that width;
* `ofHexBytes?` reads pairs of digits of either case, `hexBytes` writes them in lower case.
-/

namespace Chip8

/-- Which letters stand for ten to fifteen. -/
inductive HexCase where
  | lower
  | upper

/-- The digit of a value below sixteen. -/
def HexCase.digit (style : HexCase) (d : Nat) : Char :=
  if d < 10 then Char.ofNat (48 + d)
  else match style with
    | .lower => Char.ofNat (87 + d)
    | .upper => Char.ofNat (55 + d)

/-- The digits of a number, most significant first, without leading zeros. -/
def HexCase.digits (style : HexCase) (n : Nat) : List Char :=
  if n < 16 then [style.digit n] else style.digits (n / 16) ++ [style.digit (n % 16)]
termination_by n

/-- The number with zeros in front up to `width` digits. -/
def HexCase.nat (style : HexCase) (width n : Nat) : String :=
  let ds := style.digits n
  String.ofList (List.replicate (width - ds.length) '0' ++ ds)

/-- The number with zeros after its sign up to `width` characters in all. -/
def HexCase.int (style : HexCase) (width : Nat) (n : Int) : String :=
  if n < 0 then "-" ++ style.nat (width - 1) n.natAbs else style.nat width n.toNat

/-- The value of a digit of either case. -/
def hexDigit? (c : Char) : Option Nat :=
  if '0' ≤ c ∧ c ≤ '9' then some (c.toNat - 48)
  else if 'a' ≤ c ∧ c ≤ 'f' then some (c.toNat - 87)
  else if 'A' ≤ c ∧ c ≤ 'F' then some (c.toNat - 55)
  else none

/-- The two digits of a byte in lower case. -/
def hexByte (b : UInt8) : List Char :=
  [HexCase.lower.digit (b.toNat / 16), HexCase.lower.digit (b.toNat % 16)]

def hexBytes (bytes : List UInt8) : String := String.ofList (bytes.flatMap hexByte)

/-- The bytes written as pairs of digits. -/
def ofHexChars? : List Char → Option (List UInt8)
  | [] => some []
  | [_] => none
  | a :: b :: rest => do
    let high ← hexDigit? a
    let low ← hexDigit? b
    return UInt8.ofNat (16 * high + low) :: (← ofHexChars? rest)

/-- The bytes that a string of digit pairs stands for. -/
def ofHexBytes? (s : String) : Option (List UInt8) := ofHexChars? s.toList

end Chip8

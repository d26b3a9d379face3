/-!
# SHA-512

The digest of a sequence of bytes, 64 bytes long.

* `Sha512.rootFraction` gives the constants: the first 64 binary places of square and cube
  roots of primes.
* `Sha512.padded` fills the bytes up to whole blocks of sixteen words.
* `Sha512.compress` mixes a block into the state, and `Sha512.digest` does so block by block.
-/

namespace Chip8.Sha512

/-- The greatest number below `2 ^ bits` whose power is not above `n`. -/
def rootWithin (power n bits : Nat) : Nat :=
  (List.range bits).foldr
    (fun b r => if Nat.pow (r + Nat.pow 2 b) power ≤ n then r + Nat.pow 2 b else r) 0

/-- The first 64 binary places of a root of a number below `2 ^ 9`. -/
def rootFraction (power n : Nat) : UInt64 :=
  (rootWithin power (n * Nat.pow 2 (64 * power)) 73).toUInt64

def primesBelow (bound : Nat) : List Nat :=
  (List.range bound).filter fun p => 2 ≤ p && (List.range p).all fun d => d < 2 || p % d ≠ 0

/-- The constants of the eighty rounds, from the cube roots of the first eighty primes. -/
def roundConstants : Array UInt64 := ((primesBelow 410).map (rootFraction 3)).toArray

structure State where
  a : UInt64
  b : UInt64
  c : UInt64
  d : UInt64
  e : UInt64
  f : UInt64
  g : UInt64
  h : UInt64

/-- The words before the first block, from the square roots of the first eight primes. -/
def initial : State where
  a := rootFraction 2 2
  b := rootFraction 2 3
  c := rootFraction 2 5
  d := rootFraction 2 7
  e := rootFraction 2 11
  f := rootFraction 2 13
  g := rootFraction 2 17
  h := rootFraction 2 19

/-- The word turned right by a number of places between one and 63. -/
def rotate (w places : UInt64) : UInt64 := (w >>> places) ||| (w <<< (64 - places))

/-- The word of a schedule at an index before its end, counted back from there. -/
def back (schedule : Array UInt64) (k : Nat) : UInt64 := schedule.getD (schedule.size - k) 0

/-- One more word of a schedule, from four of the sixteen before it. -/
def extend (schedule : Array UInt64) : Array UInt64 :=
  let near := back schedule 2
  let far := back schedule 15
  schedule.push
    ((rotate near 19 ^^^ rotate near 61 ^^^ (near >>> 6)) + back schedule 7
      + (rotate far 1 ^^^ rotate far 8 ^^^ (far >>> 7)) + back schedule 16)

/-- One round with a word of the schedule and its constant. -/
def round (s : State) (word constant : UInt64) : State :=
  let fromE := s.h + (rotate s.e 14 ^^^ rotate s.e 18 ^^^ rotate s.e 41)
    + ((s.e &&& s.f) ^^^ (~~~s.e &&& s.g)) + constant + word
  let fromA := (rotate s.a 28 ^^^ rotate s.a 34 ^^^ rotate s.a 39)
    + ((s.a &&& s.b) ^^^ (s.a &&& s.c) ^^^ (s.b &&& s.c))
  ⟨fromE + fromA, s.a, s.b, s.c, s.d + fromE, s.e, s.f, s.g⟩

/-- The state after a block of sixteen words. -/
def compress (s : State) (block : List UInt64) : State :=
  let schedule := (List.range 64).foldl (fun w _ => extend w) block.toArray
  let t := (schedule.zip roundConstants).foldl (fun s (word, constant) => round s word constant) s
  ⟨s.a + t.a, s.b + t.b, s.c + t.c, s.d + t.d, s.e + t.e, s.f + t.f, s.g + t.g, s.h + t.h⟩

/-- A number as bytes, most significant first. -/
def bigEndian (length n : Nat) : List UInt8 :=
  (List.range length).map fun k => UInt8.ofNat (n / Nat.pow 256 (length - 1 - k))

/-- The bytes, a bit that marks their end, and their length in bits at the end of a block. -/
def padded (bytes : List UInt8) : List UInt8 :=
  let length := bytes.length
  bytes ++ 0x80 :: (List.replicate ((239 - length % 128) % 128) 0 ++ bigEndian 16 (8 * length))

/-- Eight bytes and eight more, each group as a word. -/
def words : List UInt8 → List UInt64
  | a :: b :: c :: d :: e :: f :: g :: h :: rest =>
    [a, b, c, d, e, f, g, h].foldl (fun w x => w <<< 8 ||| x.toUInt64) 0 :: words rest
  | _ => []

/-- The state after a number of blocks of sixteen words. -/
def absorb : Nat → State → List UInt64 → State
  | 0, s, _ => s
  | n + 1, s, ws => absorb n (compress s (ws.take 16)) (ws.drop 16)

def digest (bytes : List UInt8) : List UInt8 :=
  let ws := words (padded bytes)
  let s := absorb (ws.length / 16) initial ws
  [s.a, s.b, s.c, s.d, s.e, s.f, s.g, s.h].flatMap fun w => bigEndian 8 w.toNat

end Chip8.Sha512

/-!
# The random generator

MT19937, seeded by an array of 32-bit words:

* `Twister.ofSeed` seeds it with the words of the seed's magnitude, least significant first;
* `Twister.next` gives the next tempered word, renewing the state every 624 words;
* `Twister.byte` draws nine bits until they are below 256.
-/

namespace Chip8

abbrev twisterSize : Nat := 624

/-- The state words, and how many of them were given out since the last renewal. -/
structure Twister where
  words : Vector UInt32 twisterSize
  position : Nat

namespace Twister

/-- An index taken around the state. -/
def around (k : Nat) : Fin twisterSize := ⟨k % twisterSize, Nat.mod_lt _ (by decide)⟩

/-- The word at an index taken around the state. -/
def wordAt (words : Vector UInt32 twisterSize) (k : Nat) : UInt32 := words[around k]

/-- The state with the word at an index, taken around the state, replaced. -/
def setWord (words : Vector UInt32 twisterSize) (k : Nat) (w : UInt32) :
    Vector UInt32 twisterSize :=
  words.set (around k) w (around k).isLt

/-- A word mixed with its two high bits. -/
def fold30 (w : UInt32) : UInt32 := w ^^^ (w >>> 30)

/-- The state that one word starts. -/
def ofWord (start : UInt32) : Vector UInt32 twisterSize :=
  (List.range (twisterSize - 1)).foldl
    (fun words k => setWord words (k + 1) (1812433253 * fold30 (wordAt words k) + (k + 1).toUInt32))
    (Vector.replicate twisterSize start)

/-- Going to index `k`, the word before it at the start stands for the last one. -/
def wrapFirst (words : Vector UInt32 twisterSize) (k : Nat) : Vector UInt32 twisterSize × Nat :=
  if k + 1 = twisterSize then (setWord words 0 (wordAt words k), 1) else (words, k + 1)

/-- One mixing of a key word into the state, at index `k` with key index `j`. -/
def mixKey (key : Array UInt32) (s : Vector UInt32 twisterSize × Nat × Nat) :
    Vector UInt32 twisterSize × Nat × Nat :=
  let (words, k, j) := s
  let w := (wordAt words k ^^^ (fold30 (wordAt words (k - 1)) * 1664525))
    + key.getD j 0 + j.toUInt32
  let (words, k) := wrapFirst (setWord words k w) k
  (words, k, if j + 1 < key.size then j + 1 else 0)

/-- One mixing of the index into the state. -/
def mixIndex (s : Vector UInt32 twisterSize × Nat) : Vector UInt32 twisterSize × Nat :=
  let (words, k) := s
  let w := (wordAt words k ^^^ (fold30 (wordAt words (k - 1)) * 1566083941)) - k.toUInt32
  wrapFirst (setWord words k w) k

/-- The generator that a key starts. -/
def ofKey (key : Array UInt32) : Twister :=
  let (words, k, _) := (max twisterSize key.size).fold (fun _ _ s => mixKey key s)
    (ofWord 19650218, 1, 0)
  let (words, _) := (twisterSize - 1).fold (fun _ _ s => mixIndex s) (words, k)
  ⟨setWord words 0 0x80000000, twisterSize⟩

/-- The 32-bit words of a number, least significant first; zero has one. -/
def seedWords (n : Nat) : List UInt32 :=
  if n < 0x100000000 then [n.toUInt32] else n.toUInt32 :: seedWords (n / 0x100000000)
termination_by n

/-- The generator that an integer starts; its sign does not matter. -/
def ofSeed (seed : Int) : Twister := ofKey (seedWords seed.natAbs).toArray

/-- The renewed word at an index: the word `397` places on, mixed with this one's high bit
and the next one's low bits. -/
def renewedWord (words : Vector UInt32 twisterSize) (k : Nat) : UInt32 :=
  let y := (wordAt words k &&& 0x80000000) ||| (wordAt words (k + 1) &&& 0x7FFFFFFF)
  wordAt words (k + 397) ^^^ (y >>> 1) ^^^ (if y &&& 1 = 0 then 0 else 0x9908B0DF)

/-- The next state, word by word in place. -/
def renew (words : Vector UInt32 twisterSize) : Vector UInt32 twisterSize :=
  twisterSize.fold (fun k _ words => setWord words k (renewedWord words k)) words

/-- The output of a state word. -/
def temper (w : UInt32) : UInt32 :=
  let w := w ^^^ (w >>> 11)
  let w := w ^^^ ((w <<< 7) &&& 0x9D2C5680)
  let w := w ^^^ ((w <<< 15) &&& 0xEFC60000)
  w ^^^ (w >>> 18)

/-- The next output and the generator after it. -/
def next (g : Twister) : UInt32 × Twister :=
  let words := if g.position < twisterSize then g.words else renew g.words
  let k := if g.position < twisterSize then g.position else 0
  (temper (wordAt words k), ⟨words, k + 1⟩)

/-- At most `tries` draws of nine bits; the first below 256 is taken. -/
def byteWithin : Nat → Twister → UInt8 × Twister
  | 0, g => (0, g)
  | tries + 1, g =>
    let (w, g) := g.next
    if w >>> 23 < 256 then ((w >>> 23).toUInt8, g) else byteWithin tries g

/-- The next byte. The top bit of the outputs obeys a linear recurrence of order 19937, so it is
never set in that many consecutive draws. -/
def byte (g : Twister) : UInt8 × Twister := byteWithin 19938 g

end Twister

end Chip8

import Chip8.Opcode.Decoded
import Chip8.State.Machine

/-!
# Listings

The instructions of a stretch of words, two bytes apart, each with its address and opcode.

* `listing` goes over a machine, where every address has a word.
* `scan` goes over a store of numbers and ends at the first index outside it, keeping the rows
  before. Items of a store need not be bytes: the opcode is the first item shifted by eight
  bits and joined with the second, and only its low sixteen bits are decoded.
-/

namespace Chip8

structure ListingRow where
  address : Int
  opcode : Int
  text : String

/-- The row of a word at an address. -/
def ListingRow.ofWord (address word : Int) : ListingRow :=
  ⟨address, word, (Decoded.ofWord word).text⟩

/-- The count of instructions from one address up to another. -/
def listingLength (first last : Int) : Nat := ((last - first) / 2).toNat

/-- The addresses of the instructions from one address up to another. -/
def listingAddresses (first last : Int) : List Int :=
  (List.range (listingLength first last)).map fun (k : Nat) => first + 2 * k

def Machine.listing (m : Machine) (first last : Int) : List ListingRow :=
  (listingAddresses first last).map fun a => .ofWord a (m.readWord a).toNat

/-- The bits of two integers joined, with infinitely many sign bits. -/
def joinBits (a b : Int) : Int :=
  match a, b with
  | .ofNat a, .ofNat b => .ofNat (a ||| b)
  | .ofNat a, .negSucc b => .negSucc (a ^^^ (a ||| b))
  | .negSucc a, .ofNat b => .negSucc (b ^^^ (b ||| a))
  | .negSucc a, .negSucc b => .negSucc (a &&& b)

structure NumberStore where
  kind : StoreKind
  items : Array Int

namespace NumberStore

def item (s : NumberStore) (i : Int) : Except IndexFault Int := do
  let k ← resolveIndex s.kind s.items.size i
  return s.items[k]

def word (s : NumberStore) (i : Int) : Except IndexFault Int := do
  let high ← s.item i
  let low ← s.item (i + 1)
  return joinBits (high * 256) low

/-- Rows from the `k`-th on, up to the first index outside the store. -/
def scanFrom (s : NumberStore) (first : Int) (k : Nat) :
    Nat → List ListingRow × Option IndexFault
  | 0 => ([], none)
  | count + 1 =>
    let a := first + 2 * k
    match s.word a with
    | .error cause => ([], some cause)
    | .ok w =>
      let (rows, cause) := scanFrom s first (k + 1) count
      (.ofWord a w :: rows, cause)

/-- The rows from one index up to another, and why they end early if they do. -/
def scan (s : NumberStore) (first last : Int) : List ListingRow × Option IndexFault :=
  s.scanFrom first 0 (listingLength first last)

end NumberStore

end Chip8

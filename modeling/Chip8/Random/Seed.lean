import Chip8.Json.Basic
import Chip8.Number.Residue
import Chip8.Random.Sha512
import Chip8.Text.Encoding

/-!
# Seeds

The number that the generator starts from, for any value that may be given as a seed.

* An integer or a truth value stands for itself, a binary64 number for its `residueWord`.
* A text stands for the number that its bytes in UTF-8 and their digest write in base 256.
* Null stands for no number; lists and objects are refused.
-/

namespace Chip8

inductive SeedFault where
  /-- It is a list or an object. -/
  | kind
  /-- It is a text that has no bytes. -/
  | text (cause : Text.SurrogateRun)
  deriving DecidableEq

def SeedFault.message : SeedFault → String
  | .kind => "The only supported seed types are: None,\nint, float, str, bytes, and bytearray."
  | .text cause => cause.message

/-- The number that bytes write in base 256, most significant first. -/
def bigEndianValue (bytes : List UInt8) : Nat := bytes.foldl (fun n b => 256 * n + b.toNat) 0

/-- The number that a text stands for as a seed. -/
def Text.seed (t : Text) : Except SeedFault Nat :=
  match t.utf8 with
  | .ok bytes => return bigEndianValue (bytes ++ Sha512.digest bytes)
  | .error cause => throw (.text cause)

/-- The number that a value stands for as a seed; null stands for none. -/
def Json.seed : Json → Except SeedFault (Option Int)
  | .null => return none
  | .int n => return some n
  | .bool b => return some (Number.ofTruth b)
  | .float x => return some x.residueWord
  | .str t => do return some (← t.seed)
  | .arr _ | .obj _ => throw .kind

end Chip8

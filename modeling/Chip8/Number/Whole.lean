/-!
# Whole numbers as given

A whole number may be given as an integer or as a truth value. A truth value counts as one
or zero and keeps its own name in text.
-/

namespace Chip8

/-- A whole number as it was given. -/
inductive WholeNumber where
  | integer (n : Int)
  | truth (b : Bool)
  deriving DecidableEq

namespace WholeNumber

/-- The number that it counts as. -/
def value : WholeNumber → Int
  | .integer n => n
  | .truth b => if b then 1 else 0

def text : WholeNumber → String
  | .integer n => toString n
  | .truth true => "True"
  | .truth false => "False"

instance : Coe Int WholeNumber := ⟨integer⟩

instance : Coe Nat WholeNumber := ⟨fun n => integer n⟩

instance (n : Nat) : OfNat WholeNumber n := ⟨integer n⟩

end WholeNumber

end Chip8

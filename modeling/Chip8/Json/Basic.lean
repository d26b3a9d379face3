import Chip8.Number.Basic
import Chip8.Text.CodePoint

/-!
# JSON values

Values of the interchange format. Integers and binary64 numbers are kept apart,
texts may hold lone surrogates, and an object keeps the order of its members.
-/

namespace Chip8

inductive Json where
  | null
  | bool (b : Bool)
  | int (n : Int)
  | float (x : Binary64)
  | str (t : Text)
  | arr (items : List Json)
  | obj (members : List (Text × Json))

namespace Json

instance : Inhabited Json := ⟨.null⟩

/-- A value that counts as true: not null, false or zero, and not empty. -/
def isTruthy : Json → Bool
  | .null => false
  | .bool b => b
  | .int n => n != 0
  | .float x => !(Number.float x).same (.integer 0)
  | .str t => !t.isEmpty
  | .arr items => !items.isEmpty
  | .obj members => !members.isEmpty

/-- The members with one more: a key that is there already keeps its place and takes the value. -/
def insertMember (members : List (Text × Json)) (key : Text) (value : Json) :
    List (Text × Json) :=
  if members.any (·.1 == key) then
    members.map fun m => if m.1 == key then (key, value) else m
  else members ++ [(key, value)]

def member? (members : List (Text × Json)) (key : Text) : Option Json :=
  (members.find? (·.1 == key)).map (·.2)

/-- The value as a number, if it is one. -/
def number? : Json → Option Number
  | .int n => some (.integer n)
  | .bool b => some (.truth b)
  | .float x => some (.float x)
  | _ => none

mutual

/-- Equal in value: numbers by `Number.same`, objects without regard to order. -/
def same (a b : Json) : Bool :=
  match a with
  | .null => match b with | .null => true | _ => false
  | .str s => match b with | .str t => s == t | _ => false
  | .arr xs => match b with | .arr ys => sameItems xs ys | _ => false
  | .obj ms => match b with
    | .obj ns => ms.length == ns.length && sameMembers ms ns
    | _ => false
  | .int n => match b.number? with | some y => (Number.integer n).same y | none => false
  | .bool t => match b.number? with | some y => (Number.truth t).same y | none => false
  | .float x => match b.number? with | some y => (Number.float x).same y | none => false

/-- Item by item equal in value. -/
def sameItems : List Json → List Json → Bool
  | [], [] => true
  | x :: xs, y :: ys => same x y && sameItems xs ys
  | _, _ => false

/-- Every member has one of the same key and value. -/
def sameMembers : List (Text × Json) → List (Text × Json) → Bool
  | [], _ => true
  | (k, x) :: ms, ns =>
    (match member? ns k with
      | some y => same x y
      | none => false) && sameMembers ms ns

end

end Json

end Chip8

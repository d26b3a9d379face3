import Chip8.Json.Basic

/-!
# Room for copies

A value is copied from the outside in, and every step inwards takes room that is limited.
`Json.checkCopy` says whether some room is enough.

* An array or object takes two places, and what it holds is copied in the room that is left;
  in an object each key comes before its value.
* A key and any other value take three places: `checkPlainCopy_eq_ok_iff`.
-/

namespace Chip8.Json

inductive CopyFault where
  /-- No room is left to begin with a value. -/
  | start
  /-- No room is left to finish with a key or with a value that holds no others. -/
  | finish
  deriving DecidableEq

def CopyFault.message : CopyFault → String
  | .start => "maximum recursion depth exceeded"
  | .finish => "maximum recursion depth exceeded while calling a Python object"

/-- There is room for a copy of a key, or of a value that holds no others. -/
def checkPlainCopy (room : Nat) : Except CopyFault Unit :=
  if room < 2 then throw .start else if room < 3 then throw .finish else return ()

theorem checkPlainCopy_eq_ok_iff {room : Nat} : checkPlainCopy room = .ok () ↔ 3 ≤ room := by
  unfold checkPlainCopy
  split
  · simp [throw, throwThe, MonadExceptOf.throw]; omega
  · split
    · simp [throw, throwThe, MonadExceptOf.throw]; omega
    · simp [pure, Except.pure]; omega

mutual

/-- There is room for a copy of a value. -/
def checkCopy (room : Nat) : Json → Except CopyFault Unit
  | .arr items => if room < 2 then throw .start else checkItemCopies (room - 2) items
  | .obj members => if room < 2 then throw .start else checkMemberCopies (room - 2) members
  | _ => checkPlainCopy room

/-- There is room for a copy of each item. -/
def checkItemCopies (room : Nat) : List Json → Except CopyFault Unit
  | [] => return ()
  | v :: rest => do
    checkCopy room v
    checkItemCopies room rest

/-- There is room for a copy of each key and value. -/
def checkMemberCopies (room : Nat) : List (Text × Json) → Except CopyFault Unit
  | [] => return ()
  | (_, v) :: rest => do
    checkPlainCopy room
    checkCopy room v
    checkMemberCopies room rest

end

end Chip8.Json

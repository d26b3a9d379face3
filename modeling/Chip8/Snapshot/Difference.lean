import Chip8.Snapshot.Basic

/-!
# Differences between snapshots

* `Difference.between` lists the registers whose values differ in their order, the addresses whose
  bytes differ in ascending order, and the other fields where they differ. The timer cycles are
  compared by value and shown as they were given.
* Before the first snapshot there is nothing to compare, and the difference is empty.
-/

namespace Chip8

structure Change (α : Type) where
  before : α
  after : α
  deriving DecidableEq

/-- The change from one value to another, if they differ. -/
def Change.between? {α : Type} [DecidableEq α] (before after : α) : Option (Change α) :=
  if before = after then none else some ⟨before, after⟩

/-- The change from one whole number to another, if their values differ. -/
def Change.ofWhole? (before after : WholeNumber) : Option (Change WholeNumber) :=
  if before.value = after.value then none else some ⟨before, after⟩

structure Difference where
  registers : List (String × Change Nat)
  addresses : List Nat
  displayChanged : Bool
  key : Option (Change (Option Key))
  cycle : Option (Change WholeNumber)

namespace Difference

def none : Difference := ⟨[], [], false, .none, .none⟩

def isEmpty (d : Difference) : Bool :=
  d.registers.isEmpty && d.addresses.isEmpty && !d.displayChanged && d.key.isNone
    && d.cycle.isNone

/-- The named values that differ between two lists of the same names. -/
def namedChanges (before after : List (String × Nat)) : List (String × Change Nat) :=
  (before.zip after).filterMap fun ((name, old), (_, new)) =>
    (Change.between? old new).map fun c => (name, c)

def changedAddresses (before after : Memory) : List Nat :=
  ((List.finRange memorySize).filter fun a => before[a] ≠ after[a]).map (·.val)

def between (before after : Snapshot) : Difference where
  registers := namedChanges before.registers after.registers
  addresses := changedAddresses before.memory after.memory
  displayChanged := before.display != after.display
  key := Change.between? before.key after.key
  cycle := Change.ofWhole? before.cycle after.cycle

/-- What differs since an earlier snapshot, if there is one. -/
def since (before : Option Snapshot) (after : Snapshot) : Difference :=
  match before with
  | some before => between before after
  | .none => none

/-- The changed addresses with the bytes that they hold in a snapshot. -/
def changedBytes (d : Difference) (s : Snapshot) : List Stretch :=
  stretches (d.addresses.map fun (a : Nat) => (a, s.memory.get (cell a)))

end Difference

end Chip8

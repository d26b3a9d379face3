import Chip8.State.Machine
import Chip8.Text.Hex

/-!
# Snapshots

The visible state of a machine at one moment: registers, memory, pending key and timer cycle.
-/

namespace Chip8

structure Snapshot where
  memory : Memory
  v : Vector UInt8 registerCount
  i : UInt16
  pc : UInt16
  sp : UInt8
  dt : UInt8
  st : UInt8
  key : Option Key
  cycle : WholeNumber
  deriving DecidableEq

def Machine.snapshot (m : Machine) : Snapshot :=
  ⟨m.memory, m.v, m.i, m.pc, m.sp, m.dt, m.st, m.key, m.cycle⟩

namespace Snapshot

/-- The registers by name, the V registers first. -/
def registers (s : Snapshot) : List (String × Nat) :=
  (List.finRange registerCount).map
      (fun (k : VIndex) => ("v" ++ HexCase.lower.nat 1 k.val, (s.v.get k).toNat))
    ++ [("i", s.i.toNat), ("pc", s.pc.toNat), ("sp", s.sp.toNat), ("dt", s.dt.toNat),
      ("st", s.st.toNat)]

def display (s : Snapshot) : List UInt8 := displayWindow.bytes s.memory

end Snapshot

/-- A stretch of bytes at consecutive addresses. -/
abbrev Stretch := Nat × List UInt8

/-- Bytes by ascending address, as the longest stretches of consecutive addresses. -/
def stretches (bytes : List (Nat × UInt8)) : List Stretch :=
  bytes.foldr (fun (a, b) rest =>
    match rest with
    | (start, bs) :: more => if a + 1 = start then (a, b :: bs) :: more else (a, [b]) :: rest
    | [] => [(a, [b])]) []

/-- The bytes that are not zero, with their places. -/
def nonzeroStretches (bytes : List UInt8) : List Stretch :=
  stretches ((bytes.zipIdx.map fun (b, a) => (a, b)).filter (·.2 ≠ 0))

end Chip8

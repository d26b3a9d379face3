import Chip8.State.MemoryMap

/-!
# Operands

The fields of a 16-bit opcode, from its second digit on.
-/

namespace Chip8

structure Operands where
  x : Fin registerCount
  y : Fin registerCount
  n : Nat
  nn : Nat
  nnn : Nat

def Operands.ofOpcode (opcode : UInt16) : Operands where
  x := ⟨opcode.toNat / 256 % 16, by simp only [registerCount]; omega⟩
  y := ⟨opcode.toNat / 16 % 16, by simp only [registerCount]; omega⟩
  n := opcode.toNat % 16
  nn := opcode.toNat % 256
  nnn := opcode.toNat % 4096

end Chip8

import Chip8.Proofs.Calm

/-!
# Arithmetic on registers

Arithmetic assigns Vx and the flag register at once, whichever registers its operands are.

* `Operation.arithmetic?` says what an operation works out from Vx, Vy and the byte of its opcode as
  they are before it: a value for Vx, and a flag if it has one.
* `Arithmetic.Assigned`: registers hold these, and the others are as they were. It is so after the
  flag and then the result are written (`assigned_set`), also if Vx is read once more in between
  (`assigned_set_reread`).
* `execute_arithmetic` is the law for all such opcodes.
-/

namespace Chip8

open Chip8.Action

/-- What an arithmetic operation works out. -/
structure Arithmetic where
  /-- The value of Vx. -/
  value : Nat
  /-- The value of the flag register, if the operation writes it. -/
  flag : Option Nat
  /-- The value of the flag register where it is Vx. -/
  overFlag : Nat := value

/-- What an operation works out from Vx, Vy and the byte of its opcode, if it is arithmetic. -/
def Operation.arithmetic? (op : Operation) (a b nn : Nat) : Option Arithmetic :=
  match op with
  | .addByte => some { value := (a + nn) % 256, flag := none }
  | .copy => some { value := b, flag := none }
  | .bitOr => some { value := a ||| b, flag := none }
  | .bitAnd => some { value := a &&& b, flag := none }
  | .bitXor => some { value := a ^^^ b, flag := none }
  | .add => some { value := (a + b) % 256, flag := some (if 255 < a + b then 1 else 0) }
  | .subtract =>
    some { value := ((a - b : Int) % 256).toNat, flag := some (if b < a then 1 else 0) }
  | .subtractFrom =>
    some { value := ((b - a : Int) % 256).toNat, flag := some (if a < b then 1 else 0) }
  | .shiftRight => some { value := a / 2, flag := some (a % 2), overFlag := 0 }
  | .shiftLeft =>
    some { value := 2 * a % 256, flag := some (a / 128), overFlag := 2 * (a / 128) }
  | _ => none

namespace Arithmetic

variable {r : Arithmetic} {v : Vector UInt8 registerCount} {x : VIndex}

/-- The second registers are the first ones with the results of arithmetic on Vx. -/
structure Assigned (r : Arithmetic) (x : VIndex) (v v' : Vector UInt8 registerCount) : Prop where
  value : x ≠ flagRegister → (v'.get x).toNat = r.value
  flag : x ≠ flagRegister → (v'.get flagRegister).toNat = r.flag.getD (v.get flagRegister).toNat
  overFlag : x = flagRegister → (v'.get flagRegister).toNat = r.overFlag
  others : ∀ k, k ≠ x → k ≠ flagRegister → v'.get k = v.get k

theorem get_set_self (v : Vector UInt8 registerCount) (k : VIndex) (b : UInt8) :
    (v.set k b k.isLt).get k = b := Vector.getElem_set_self k.isLt

theorem get_set_of_ne {k j : VIndex} (h : j ≠ k) (v : Vector UInt8 registerCount) (b : UInt8) :
    (v.set k b k.isLt).get j = v.get j :=
  Vector.getElem_set_ne k.isLt j.isLt fun e => h (Fin.ext e.symm)

/-- The flag, and then the result: the result stands in the flag register. -/
theorem assigned_set {f e : UInt8} (flag : f.toNat = r.flag.getD (v.get flagRegister).toNat)
    (value : x ≠ flagRegister → e.toNat = r.value)
    (overFlag : x = flagRegister → e.toNat = r.overFlag) :
    r.Assigned x v ((v.set flagRegister f flagRegister.isLt).set x e x.isLt) where
  value h := by rw [get_set_self, value h]
  flag h := by rw [get_set_of_ne h.symm, get_set_self, flag]
  overFlag h := by
    subst h
    rw [get_set_self, overFlag rfl]
  others k hx hf := by rw [get_set_of_ne hx, get_set_of_ne hf]

/-- The flag, and then a result that is worked out from Vx as it is then. -/
theorem assigned_set_reread {f : UInt8} {g : UInt8 → UInt8}
    (flag : f.toNat = r.flag.getD (v.get flagRegister).toNat)
    (value : (g (v.get x)).toNat = r.value) (overFlag : (g f).toNat = r.overFlag) :
    let flagged := v.set flagRegister f flagRegister.isLt
    r.Assigned x v (flagged.set x (g (flagged.get x)) x.isLt) := by
  refine assigned_set flag (fun apart => ?_) fun same => ?_
  · rw [get_set_of_ne apart, value]
  · subst same
    rw [get_set_self, overFlag]

/-- The result alone. -/
theorem assigned_set_value {e : UInt8} (flag : r.flag = none) (value : e.toNat = r.value)
    (overFlag : r.overFlag = r.value) : r.Assigned x v (v.set x e x.isLt) := by
  have kept : v.set flagRegister (v.get flagRegister) flagRegister.isLt = v :=
    Vector.set_getElem_self flagRegister.isLt
  have unflagged : (v.get flagRegister).toNat = r.flag.getD (v.get flagRegister).toNat := by
    rw [flag]
    rfl
  have assigned := assigned_set (x := x) unflagged (fun _ => value)
    fun _ => value.trans overFlag.symm
  rwa [kept] at assigned

end Arithmetic

namespace System

theorem toNat_flag (set : Bool) : (UInt8.ofInt (flag set)).toNat = if set then 1 else 0 := by
  cases set <;> rfl

theorem yields_value (x : VIndex) (n : Int) (m : Machine) :
    (do setV x n; return none : Action (Option Nat)).Yields m none
      { m with v := m.v.set x (UInt8.ofInt n) x.isLt } :=
  .bind ⟨_, course_setV x n m⟩ ⟨_, course_pure _ _⟩

open Arithmetic in
/-- An arithmetic operation assigns what it works out, and does nothing else. -/
theorem yields_arithmetic {op : Operation} {o : Operands} {m : Machine} {r : Arithmetic}
    (h : op.arithmetic? (m.v.get o.x).toNat (m.v.get o.y).toNat o.nn = some r) :
    ∃ v, (perform op o).Yields m none { m with v := v } ∧ r.Assigned o.x m.v v := by
  have ha := (m.v.get o.x).toNat_lt
  have hb := (m.v.get o.y).toNat_lt
  have start : look.Yields m m m := ⟨_, course_look m⟩
  have first (f : Int) : (setV flagRegister f).Yields m () _ := ⟨_, course_setV flagRegister f m⟩
  cases op with
  | addByte =>
    obtain rfl := Option.some.inj h
    refine ⟨_, start.bind (yields_value o.x _ m), assigned_set_value rfl ?_ rfl⟩
    rw [toNat_byteOfInt]
    dsimp only
    omega
  | copy =>
    obtain rfl := Option.some.inj h
    exact ⟨_, start.bind (yields_value o.x _ m),
      assigned_set_value rfl (congrArg _ (byteOfInt_toNat _)) rfl⟩
  | bitOr | bitAnd | bitXor =>
    obtain rfl := Option.some.inj h
    refine ⟨_, start.bind (yields_value o.x _ m), assigned_set_value rfl ?_ rfl⟩
    rw [byteOfInt_toNat]
    simp only [UInt8.toNat_or, UInt8.toNat_and, UInt8.toNat_xor]
  | add =>
    obtain rfl := Option.some.inj h
    have value : (UInt8.ofInt ((m.v.get o.x).toNat + (m.v.get o.y).toNat)).toNat =
        ((m.v.get o.x).toNat + (m.v.get o.y).toNat) % 256 := by
      rw [toNat_byteOfInt]
      omega
    refine ⟨_, start.bind ((first _).bind (yields_value o.x _ _)),
      assigned_set ?_ (fun _ => value) fun _ => value⟩
    rw [toNat_flag]
    simp
  | subtract | subtractFrom =>
    obtain rfl := Option.some.inj h
    refine ⟨_, start.bind ((first _).bind (yields_value o.x _ _)),
      assigned_set ?_ (fun _ => toNat_byteOfInt _) fun _ => toNat_byteOfInt _⟩
    rw [toNat_flag]
    simp [UInt8.lt_iff_toNat_lt]
  | shiftRight =>
    obtain rfl := Option.some.inj h
    refine ⟨_, start.bind ((first _).bind (.bind ⟨_, course_look _⟩ (yields_value o.x _ _))),
      assigned_set_reread (g := fun b => UInt8.ofInt (b.toNat / 2 : Nat)) ?_ ?_ ?_⟩
    all_goals
      simp only [toNat_byteOfInt, Option.getD_some]
      omega
  | shiftLeft =>
    obtain rfl := Option.some.inj h
    refine ⟨_, start.bind ((first _).bind (.bind ⟨_, course_look _⟩ (yields_value o.x _ _))),
      assigned_set_reread (g := fun b => UInt8.ofInt (b.toNat * 2 : Nat)) ?_ ?_ ?_⟩
    all_goals
      simp only [toNat_byteOfInt, Option.getD_some]
      omega
  | _ => cases h

/-- **Arithmetic is one assignment**: an arithmetic opcode gives Vx and the flag register what it
works out from the registers before it, whichever of them are the same, and changes nothing else. -/
theorem execute_arithmetic {ω : Type} [Observers ω] (calm : Observers.Calm ω) (s : System ω)
    {w : UInt16} {op : Operation} (encoded : op.Encoded w.toNat) {r : Arithmetic}
    (h : let o := Operands.ofOpcode w
      op.arithmetic? (s.machine.v.get o.x).toNat (s.machine.v.get o.y).toNat o.nn = some r) :
    let m := s.machine
    let after := run (execute (.ofOpcode w)) s
    let m' := after.2.machine
    after.1 = .ok none ∧ r.Assigned (Operands.ofOpcode w).x m.v m'.v ∧
      m' = { m with v := m'.v } := by
  intro m after m'
  obtain ⟨v, yields, assigned⟩ := yields_arithmetic h
  rw [← execute_of_encoded encoded] at yields
  obtain ⟨result, machine⟩ := run_of_yields calm yields
  have leads : m' = { m with v := v } := machine
  rw [leads]
  exact ⟨result, assigned, rfl⟩

/-- The sum of a flag register with itself, a shift of it, and a difference that sets it. -/
theorem execute_arithmetic_brimful :
    let m := { Machine.powerOn .unseeded with v := (Vector.replicate registerCount 200).set 2 201 }
    let s : System Transcript := ⟨m, ⟨[⟨.monitor, none⟩], ⟨[]⟩, []⟩⟩
    let after (w : UInt16) := (run (execute (.ofOpcode w)) s).2.machine.v
    ((after 0x8FF4).get 15).toNat = 144 ∧ ((after 0x8FFE).get 15).toNat = 2
      ∧ ((after 0x8125).get 1).toNat = 255 ∧ ((after 0x8125).get 15).toNat = 0 := by
  intro m s after
  have add : Operation.add.Encoded (0x8FF4 : UInt16).toNat := ⟨rfl, rfl⟩
  have shift : Operation.shiftLeft.Encoded (0x8FFE : UInt16).toNat := ⟨rfl, rfl⟩
  have subtract : Operation.subtract.Encoded (0x8125 : UInt16).toNat := ⟨rfl, rfl⟩
  have added : Operation.add.arithmetic? 200 200 0xF4 = some ⟨144, some 1, 144⟩ := rfl
  have shifted : Operation.shiftLeft.arithmetic? 200 200 0xFE = some ⟨144, some 1, 2⟩ := rfl
  have subtracted : Operation.subtract.arithmetic? 200 201 0x25 = some ⟨255, some 0, 255⟩ := rfl
  obtain ⟨-, sum, -⟩ := execute_arithmetic calm_transcript s add added
  obtain ⟨-, doubled, -⟩ := execute_arithmetic calm_transcript s shift shifted
  obtain ⟨-, difference, -⟩ := execute_arithmetic calm_transcript s subtract subtracted
  exact ⟨sum.overFlag rfl, doubled.overFlag rfl, difference.value (by decide),
    difference.flag (by decide)⟩

end System

end Chip8

import Chip8.Proofs.Parts

/-!
# What operations leave alone

* One lemma for each store: it leaves every view of the machine that does not show what it writes.
* `Blind` views show nothing but PC, SP, the pending key and the timer cycle. No store but those of
  PC and SP alters them (`stores_leave`).
-/

namespace Chip8

open Chip8.Action

variable {γ : Type} {F : Machine → γ}

namespace System

theorem course_drawRows_succ (x y r rows : Nat) (hit : Bool) (m : Machine) :
    (drawRows x y r (rows + 1) hit).course m =
      let drawn := m.flipRow x (line (y + r)) (m.readByte (m.i.toNat + r : Nat))
      let span := rowSpan (column x) (line (y + r))
      ((drawRows x y (r + 1) rows (hit || drawn.2)).course drawn.1).behind
        [⟨drawn.1, .event (.memory (displayStart + span.1 : Nat) span.2)⟩] := rfl

theorem leaves_setVAs (hv : ∀ m v, F { m with v := v } = F m) (k : VIndex) (index : WholeNumber)
    (x : Int) : (setVAs k index x).Leaves F :=
  .bind (.change fun m => hv m _) fun _ => .notify _

theorem leaves_setI (hi : ∀ m i, F { m with i := i } = F m) (x : Int) : (setI x).Leaves F :=
  .bind (.change fun m => hi m _) fun _ => .notify _

theorem leaves_setPc (hpc : ∀ m pc, F { m with pc := pc } = F m) (x : Int) :
    (setPc x).Leaves F :=
  .bind (.change fun m => hpc m _) fun _ => .notify _

theorem leaves_setSp (hsp : ∀ m sp, F { m with sp := sp } = F m) (x : Int) :
    (setSp x).Leaves F :=
  .bind (.change fun m => hsp m _) fun _ => .notify _

theorem leaves_setDt (hdt : ∀ m dt, F { m with dt := dt } = F m) (x : Int) :
    (setDt x).Leaves F :=
  .bind (.change fun m => hdt m _) fun _ => .notify _

theorem leaves_setSt (hst : ∀ m st, F { m with st := st } = F m) (x : Int) :
    (setSt x).Leaves F :=
  .bind (.change fun m => hst m _) fun _ => .notify _

/-- What no drawn row changes, no sprite does. -/
theorem leaves_drawRows_of_row
    (hrow : ∀ (m : Machine) (x : Nat) (y : Fin displayHeight) (row : UInt8),
      F (m.flipRow x y row).1 = F m) (x y r rows : Nat) (hit : Bool) :
    (drawRows x y r rows hit).Leaves F := by
  induction rows generalizing r hit with
  | zero => exact .pure _
  | succ rows ih =>
    intro m
    have hf := hrow m x (line (y + r)) (m.readByte (m.i.toNat + r : Nat))
    rw [course_drawRows_succ]
    refine Course.Ends.behind (hf ▸ ih (r + 1) _ _) ?_
    exact List.forall_mem_singleton.mpr hf

section Memory

variable (hm : ∀ m memory, F { m with memory := memory } = F m)
include hm

theorem leaves_setBytesAs (offset length : WholeNumber) (bytes : List UInt8) :
    (setBytesAs offset length bytes).Leaves F := by
  unfold setBytesAs
  split
  · exact .bind (.change fun m => hm m _) fun _ => .notify _
  · exact .refuse _

theorem flipBits_frame (x : Nat) (y : Fin displayHeight) (row : UInt8)
    (bits : List (Fin spriteWidth)) (m : Machine) (hit : Bool) :
    F (Machine.flipBits x y row bits (m, hit)).1 = F m := by
  induction bits generalizing m hit with
  | nil => rfl
  | cons j rest ih =>
    simp only [Machine.flipBits]
    split
    · exact (ih _ _).trans (hm m _)
    · exact ih _ _

theorem leaves_drawRows (x y r rows : Nat) (hit : Bool) : (drawRows x y r rows hit).Leaves F :=
  leaves_drawRows_of_row (fun m _ _ _ => flipBits_frame hm _ _ _ _ m false) x y r rows hit

end Memory

end System

/-- A view that shows nothing but PC, SP, the pending key and the timer cycle. -/
structure Blind (F : Machine → γ) : Prop where
  memory : ∀ m x, F { m with memory := x } = F m
  v : ∀ m x, F { m with v := x } = F m
  i : ∀ m x, F { m with i := x } = F m
  dt : ∀ m x, F { m with dt := x } = F m
  st : ∀ m x, F { m with st := x } = F m
  generator : ∀ m x, F { m with generator := x } = F m

theorem blind_cycle : Blind Machine.cycle :=
  ⟨fun _ _ => rfl, fun _ _ => rfl, fun _ _ => rfl, fun _ _ => rfl, fun _ _ => rfl, fun _ _ => rfl⟩

theorem blind_stack : Blind fun m => (m.sp, m.cycle) :=
  ⟨fun _ _ => rfl, fun _ _ => rfl, fun _ _ => rfl, fun _ _ => rfl, fun _ _ => rfl, fun _ _ => rfl⟩

namespace System

theorem leaves_random (h : Blind F) : random.Leaves F :=
  .bind .look fun _ => .bind (.change fun m => h.generator m _) fun _ => .pure _

theorem stores_leave (h : Blind F) : OfStores fun _ a => a.Leaves F where
  pure := .pure
  look := .look
  bind := .bind
  refuse := .refuse
  report := .report
  cleared := .notify _
  drawn _ _ _ := .notify _
  setVAs _ x := leaves_setVAs h.v _ _ x
  setI := leaves_setI h.i
  setDt := leaves_setDt h.dt
  setSt := leaves_setSt h.st
  setBytesAs := leaves_setBytesAs h.memory
  drawRows := leaves_drawRows h.memory
  random := leaves_random h

end System

end Chip8

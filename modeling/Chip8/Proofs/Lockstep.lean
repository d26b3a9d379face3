import Chip8.Proofs.Decoding
import Chip8.Proofs.Likeness

/-!
# In lock step

Each writer does the same on alike machines, and so does every operation that the veil admits.

* Reads and writes at I go to the same places, whatever its upper bits (`alike_writeBlock`,
  `alike_regLoad`, `alike_drawRows`).
* `alike_perform` is the case analysis over the operations, `alike_instruction` the whole of an
  instruction.
* `Timers.alike_advance`: DT ticks in step, and a hidden ST on its own.
-/

namespace Chip8

namespace System

open Chip8.Action

variable {d : Veil}

theorem alike_setVAs (k : VIndex) (index : WholeNumber) (x : Int) :
    Alike d (setVAs k index x) (setVAs k index x) :=
  .bind (.change fun _ _ h => h.set_v k _) fun _ => .notify _

theorem alike_setV (k : VIndex) (x : Int) : Alike d (setV k x) (setV k x) := alike_setVAs k _ x

theorem alike_setVAt (index : WholeNumber) (x : Int) :
    Alike d (setVAt index x) (setVAt index x) := by
  unfold setVAt
  split
  · exact alike_setVAs _ _ x
  · exact .refuse _

/-- I takes values that are congruent, and the same unless its upper bits are hidden. -/
theorem alike_setI {x x' : Int} (mod : x % memorySize = x' % memorySize)
    (eq : d.index = false → x = x') : Alike d (setI x) (setI x') := by
  refine .bind (.change fun m m' h => { h with i_mod := ?_, i := ?_ }) fun _ => .notify _
  · simp only [UInt16.ofInt, UInt16.toNat_ofNat', memorySize] at mod ⊢
    omega
  · exact fun shown => congrArg UInt16.ofInt (eq shown)

theorem alike_setPc (x : Int) : Alike d (setPc x) (setPc x) :=
  .bind (.change fun _ _ h => h.set_pc _) fun _ => .notify _

theorem alike_setSp (x : Int) : Alike d (setSp x) (setSp x) :=
  .bind (.change fun _ _ h => { h with sp := rfl }) fun _ => .notify _

theorem alike_setDt (x : Int) : Alike d (setDt x) (setDt x) :=
  .bind (.change fun _ _ h => { h with dt := rfl }) fun _ => .notify _

theorem alike_setSt {x x' : Int} (eq : d.sound = false → x = x') :
    Alike d (setSt x) (setSt x') :=
  .bind (.change fun _ _ h => { h with st := fun shown => congrArg UInt8.ofInt (eq shown) })
    fun _ => .notify _

theorem alike_setBytesAs (offset length : WholeNumber) (bytes : List UInt8) :
    Alike d (setBytesAs offset length bytes) (setBytesAs offset length bytes) := by
  unfold setBytesAs
  split
  · refine .bind (.change fun m m' h => ?_) fun _ => .notify _
    exact h.memory ▸ h.set_memory _
  · exact .refuse _

theorem alike_setItems (offset : Int) (ns : List Int) :
    Alike d (setItems offset ns) (setItems offset ns) := by
  unfold setItems
  split
  · exact alike_setBytesAs _ _ _
  · exact .refuse _

theorem alike_fillBytes (offset : WholeNumber) (b : UInt8) (length : WholeNumber) :
    Alike d (fillBytes offset b length) (fillBytes offset b length) := by
  unfold fillBytes
  split
  · exact .refuse _
  · split
    · exact .refuse _
    · split
      · exact alike_setBytesAs _ _ _
      · exact .refuse _

/-- A block goes to the same places from addresses that are the same place. -/
theorem alike_writeBlock {address address' : Int} (same : cell address = cell address')
    (ns : List Int) : Alike d (writeBlock address ns) (writeBlock address' ns) := by
  simp only [writeBlock, same]
  split
  · exact alike_setItems _ _
  · exact .bind (alike_setItems _ _) fun _ => alike_setItems _ _

theorem alike_loadFrom (bytes : List UInt8) :
    ∀ index, Alike d (loadFrom index bytes) (loadFrom index bytes) := by
  induction bytes with
  | nil => exact fun _ => .pure _
  | cons b rest ih => exact fun index => .bind (alike_setVAt _ _) fun _ => ih _

theorem alike_regDump (n : Int) : Alike d (regDump n) (regDump n) := by
  refine .look fun m m' h => ?_
  have same : cell m.i.toNat = cell m'.i.toNat := by simpa using h.cell_add 0
  rw [h.v]
  exact alike_writeBlock same _

theorem alike_regLoad (n : Int) : Alike d (regLoad n) (regLoad n) := by
  refine .look fun m m' h => ?_
  have block (length : Nat) : m.readBlock m.i.toNat length = m'.readBlock m'.i.toNat length := by
    refine List.map_congr_left fun k _ => ?_
    rw [h.readByte, Machine.readByte, h.cell_add, Machine.readByte]
  rw [block]
  exact alike_loadFrom _ _

theorem alike_clearDisplay : Alike d clearDisplay clearDisplay :=
  .bind (alike_fillBytes _ _ _) fun _ => .notify _

theorem alike_pushStack (address : Int) : Alike d (pushStack address) (pushStack address) := by
  refine .look fun m m' h => ?_
  rw [h.sp]
  split
  · exact .refuse _
  · exact .bind (alike_setBytesAs _ _ _) fun _ => alike_setSp _

theorem alike_popStack : Alike d popStack popStack := by
  refine .look fun m m' h => ?_
  rw [h.sp]
  split
  · exact .refuse _
  · refine .bind (alike_setSp _) fun _ => .look fun m m' h => ?_
    rw [h.sp]
    dsimp only
    rw [h.readWord]
    exact .bind (alike_setBytesAs _ _ _) fun _ => .pure _

theorem alike_setGenerator (g : Twister) : Alike d (change fun m => { m with generator := g })
    (change fun m => { m with generator := g }) :=
  .change fun _ _ h => { h with generator := fun _ => rfl }

theorem alike_random (shown : d.generator = false) : Alike d random random := by
  refine .look fun m m' h => ?_
  rw [h.generator shown]
  exact .bind (alike_setGenerator _) fun _ => .pure _

theorem alike_drawRows (x y rows : Nat) :
    ∀ (r : Nat) (hit : Bool), Alike d (drawRows x y r rows hit) (drawRows x y r rows hit) := by
  induction rows with
  | zero => exact fun _ _ => .pure _
  | succ rows ih =>
    refine fun r hit => .look fun m m' h => ?_
    have read : m.readByte (m.i.toNat + r : Nat) = m'.readByte (m'.i.toNat + r : Nat) := by
      have place := h.cell_add r
      rw [h.readByte, Machine.readByte, Machine.readByte, Int.natCast_add, Int.natCast_add, place]
    rw [read]
    obtain ⟨sameHit, drawn⟩ := h.flipRow x (line (y + r)) (m'.readByte (m'.i.toNat + r : Nat))
    dsimp only
    generalize m.flipRow x _ _ = row at sameHit drawn ⊢
    generalize m'.flipRow x _ _ = row' at sameHit drawn ⊢
    obtain ⟨m₁, wasSet⟩ := row
    obtain ⟨m₁', wasSet'⟩ := row'
    obtain rfl : wasSet = wasSet' := sameHit
    exact .bind (.change fun _ _ _ => drawn) fun _ => .bind (.notify _) fun _ => ih _ _

theorem alike_draw (x y : VIndex) (n : Nat) : Alike d (draw x y n) (draw x y n) := by
  refine .look fun m m' h => ?_
  rw [h.v]
  exact .bind (alike_drawRows _ _ _ _ _) fun _ => .bind (alike_setV _ _) fun _ => .notify _

theorem alike_skipIf {p p' : Machine → Bool} (hp : ∀ m m', m.Alike d m' → p m = p' m') :
    Alike d (skipIf p) (skipIf p') := by
  refine .look fun m m' h => ?_
  rw [hp m m' h, h.skipPc]
  exact .pure _

/-- **An operation that the veil admits does the same on alike machines.** -/
theorem alike_perform {op : Operation} (admits : d.Admits op) (o : Operands) :
    Alike d (perform op o) (perform op o) := by
  have value (k : VIndex) (x : Int) : Alike d (do setV k x; return none : Action (Option Nat))
      (do setV k x; return none) := .bind (alike_setV k x) fun _ => .pure _
  refine .look fun m m' h => ?_
  dsimp only
  rw [h.v]
  cases op with
  | clearScreen => exact .bind alike_clearDisplay fun _ => .pure _
  | «return» => exact .bind alike_popStack fun _ => .pure _
  | call =>
    dsimp only
    rw [h.nextPc]
    exact .bind (alike_pushStack _) fun _ => .pure _
  | routine | jump | jumpFrom => exact .pure _
  | skipIfByte | skipUnlessByte | skipIfEqual | skipUnlessEqual =>
    exact alike_skipIf fun _ _ _ => rfl
  | skipIfKey => exact alike_skipIf fun m m' h => by rw [h.key admits]
  | skipUnlessKey => exact alike_skipIf fun m m' h => by rw [h.key admits]
  | setByte | addByte | copy | bitOr | bitAnd | bitXor => exact value _ _
  | readDelay =>
    dsimp only
    rw [h.dt]
    exact value _ _
  | add | subtract | subtractFrom => exact .bind (alike_setV _ _) fun _ => value _ _
  | shiftRight | shiftLeft =>
    refine .bind (alike_setV _ _) fun _ => .look fun m m' h => ?_
    rw [h.v]
    exact value _ _
  | random => exact .bind (alike_random admits) fun _ => value _ _
  | draw => exact .bind (alike_draw _ _ _) fun _ => .pure _
  | awaitKey =>
    dsimp only
    rw [h.key admits, h.pc]
    cases m'.key with
    | none => exact .pure _
    | some k => exact value _ _
  | setDelay => exact .bind (alike_setDt _) fun _ => .pure _
  | setSound => exact .bind (alike_setSt fun _ => rfl) fun _ => .pure _
  | setIndex | glyph => exact .bind (alike_setI rfl fun _ => rfl) fun _ => .pure _
  | addIndex =>
    have sum : ((m.i.toNat + (m'.v.get o.x).toNat : Nat) : Int) % memorySize =
        ((m'.i.toNat + (m'.v.get o.x).toNat : Nat) : Int) % memorySize := by
      have := h.i_mod
      simp only [memorySize] at this ⊢
      omega
    exact .bind (alike_setI sum fun shown => by rw [h.i shown]) fun _ => .pure _
  | storeDecimal =>
    have same : cell m.i.toNat = cell m'.i.toNat := by simpa using h.cell_add 0
    exact .bind (alike_writeBlock same _) fun _ => .pure _
  | dumpRegisters => exact .bind (alike_regDump _) fun _ => .pure _
  | loadRegisters => exact .bind (alike_regLoad _) fun _ => .pure _

/-- An instruction that the veil admits, or one without meaning. -/
theorem alike_execute {e : Decoded} (admits : ∀ op, e.operation? = some op → d.Admits op) :
    Alike d (execute e) (execute e) := by
  unfold execute
  cases hrow : e.row? with
  | none =>
    refine .look fun m m' h => ?_
    rw [h.pc]
    exact .bind (.report _) fun _ => .pure _
  | some row => exact alike_perform (admits _ (congrArg (Option.map _) hrow)) _

theorem alike_clearRegisters (ks : List VIndex) :
    Alike d (clearRegisters ks) (clearRegisters ks) := by
  induction ks with
  | nil => exact .pure _
  | cons k rest ih => exact .bind (alike_setV k 0) fun _ => ih

theorem alike_reset : Alike d reset reset := by
  refine .bind (alike_fillBytes _ _ _) fun _ => .bind alike_clearDisplay fun _ => ?_
  refine .bind (alike_setBytesAs _ _ _) fun _ => .bind (alike_clearRegisters _) fun _ => ?_
  refine .bind (alike_setI rfl fun _ => rfl) fun _ => .bind (alike_setSp _) fun _ => ?_
  refine .bind (alike_setPc _) fun _ => .bind (alike_setDt _) fun _ => ?_
  refine .bind (alike_setSt fun _ => rfl) fun _ => ?_
  exact .bind (.change fun _ _ h => { h with cycle := rfl }) fun _ => .report _

theorem alike_loadProgram (image : List UInt8) :
    Alike d (loadProgram image) (loadProgram image) := by
  unfold loadProgram
  split
  · exact .refuse _
  · exact .bind (alike_setBytesAs _ _ _) fun _ => .bind (alike_setPc _) fun _ => .report _

theorem alike_setKey (key : Option Key) : Alike d (change fun m => { m with key := key })
    (change fun m => { m with key := key }) :=
  .change fun _ _ h => { h with key := fun _ => rfl }

theorem alike_press (code : Option KeyCode) : Alike d (press code) (press code) := by
  unfold press
  split
  · exact alike_setKey none
  · split
    · exact alike_setKey _
    · exact .refuse _

end System

namespace Computer

open Chip8.Action

variable {d : Veil} {m m' : Machine}

theorem fetched_eq (h : m.Alike d m') : fetched m = fetched m' := by
  rw [fetched, h.readWord, h.pc]
  rfl

theorem alike_instruction (h : m.Alike d m')
    (admits : ∀ op, (fetched m).operation? = some op → d.Admits op) :
    (instruction.course m).Alike d (instruction.course m') := by
  -- What follows the announcement, of an instruction that was fetched before it.
  let proceed (e : Decoded) : Action Decoded := do
    let target ← System.execute e
    let m ← System.look
    System.setPc (target.getD m.nextPc : Nat)
    return e
  have course_eq (m : Machine) : instruction.course m =
      ((proceed (fetched m)).course m).behind [⟨m, .event .step⟩] := rfl
  have proceeds : Alike d (proceed (fetched m)) (proceed (fetched m)) := by
    refine .bind (System.alike_execute admits) fun target => .look fun m m' h => ?_
    rw [h.nextPc]
    exact .bind (System.alike_setPc _) fun _ => .pure _
  rw [course_eq, course_eq, ← fetched_eq h]
  exact (proceeds m m' h).behind (.both _ h .nil)

end Computer

namespace Timers

open Chip8.Action

variable {d : Veil}

/-- The second half of a tick. -/
def tickSound : Action Bool := do
  let m ← System.look
  if m.st ≠ 0 then System.setSt ((m.st.toNat : Int) - 1)
  return true

theorem course_tickSound_zero {m : Machine} (h : m.st = 0) :
    tickSound.course m = ⟨[], .ok true, m⟩ := by
  have zero : ¬ m.st ≠ 0 := not_not.mpr h
  simp only [tickSound, course_bind, System.course_look, Course.andThen_ok, if_neg zero,
    course_pure, Course.behind_nil]

theorem course_tickSound {m : Machine} (h : m.st ≠ 0) :
    tickSound.course m =
      let m' := { m with st := UInt8.ofInt ((m.st.toNat : Int) - 1) }
      ⟨[⟨m', .event (.register .st)⟩], .ok true, m'⟩ := by
  simp only [tickSound, course_bind, System.course_look, Course.andThen_ok, if_pos h,
    System.course_setSt, course_pure, Course.behind_mk, List.append_nil, List.nil_append]

/-- A hidden ST ticks on its own. -/
theorem alike_tickSound : Alike d tickSound tickSound := by
  intro m m' h
  have hidden (ne : m.st ≠ m'.st) : d.sound = true := by
    by_contra shown
    exact ne (h.st (Bool.eq_false_of_not_eq_true shown))
  by_cases hm : m.st = 0
  · by_cases hm' : m'.st = 0
    · rw [course_tickSound_zero hm, course_tickSound_zero hm']
      exact ⟨.nil, rfl, h⟩
    · have alone := hidden fun e => hm' (e ▸ hm)
      rw [course_tickSound_zero hm, course_tickSound hm']
      exact ⟨.right _ alone .nil, rfl, { h with st := fun shown => nomatch alone.symm.trans shown }⟩
  · by_cases hm' : m'.st = 0
    · have alone := hidden fun e => hm (e ▸ hm')
      rw [course_tickSound hm, course_tickSound_zero hm']
      exact ⟨.left _ alone .nil, rfl, { h with st := fun shown => nomatch alone.symm.trans shown }⟩
    · have lowered : Machine.Alike d { m with st := UInt8.ofInt ((m.st.toNat : Int) - 1) }
          { m' with st := UInt8.ofInt ((m'.st.toNat : Int) - 1) } :=
        { h with st := fun shown => by rw [h.st shown] }
      rw [course_tickSound hm, course_tickSound hm']
      exact ⟨.both _ lowered .nil, rfl, lowered⟩

theorem alike_tick (t : Timers) : Alike d t.tick t.tick := by
  refine .look fun m m' h => ?_
  rw [h.cycle, h.dt]
  split
  · exact .pure _
  · dsimp only
    split
    · exact .bind (System.alike_setDt _) fun _ => alike_tickSound
    · exact alike_tickSound

theorem alike_advance (t : Timers) : Alike d t.advance t.advance := by
  rw [advance_eq]
  refine .bind (.change fun m m' h => { h with cycle := ?_ }) fun _ => alike_tick t
  rw [h.cycle]

end Timers

end Chip8

import Chip8.Clock.Computer
import Chip8.Proofs.Writes

/-!
# From parts to wholes

What holds of single stores, and passes from parts to a whole, holds of every instruction.

* `Compositional` properties pass to sequences of actions.
* `OfStores` properties hold of the stores that all writers come down to, and of refusals. They hold
  of the writers, too: `OfStores.writeBlock`, `OfStores.regLoad`, `OfStores.draw` and so on.
* `OfWriters` properties hold of the writers as operations use them, and may say that none of
  them is refused. `OfWriters.perform` is the one case analysis over the operations. Calls and
  returns are named by hypotheses of their own, since only they touch the stack.
* `Compositional.instruction` and `Timers.tick_of_parts` do the same for the rest of a step.
-/

namespace Chip8

namespace Action

/-- The property passes from the parts of an action to the whole. -/
structure Compositional (P : (α : Type) → Action α → Prop) : Prop where
  pure : ∀ {α : Type} (x : α), P α (Pure.pure x)
  look : P Machine System.look
  bind : ∀ {α β : Type} {a : Action α} {f : α → Action β},
    P α a → (∀ x, P β (f x)) → P β (a >>= f)

/-- The property holds of refusals and of single stores. -/
structure OfStores (P : (α : Type) → Action α → Prop) : Prop extends Compositional P where
  refuse : ∀ {α : Type} (cause : Fault), P α (System.refuse cause)
  report : ∀ r, P Unit (System.report r)
  cleared : P Unit (System.notify .cleared)
  drawn : ∀ x y height, P Unit (System.notify (.drawn x y height))
  setVAs : ∀ {k : VIndex} {index : WholeNumber},
    resolveIndex .buffer registerCount index.value = .ok k → ∀ x, P Unit (System.setVAs k index x)
  setI : ∀ x, P Unit (System.setI x)
  setDt : ∀ x, P Unit (System.setDt x)
  setSt : ∀ x, P Unit (System.setSt x)
  setBytesAs : ∀ offset length bytes, P Unit (System.setBytesAs offset length bytes)
  drawRows : ∀ x y r rows hit, P Bool (System.drawRows x y r rows hit)
  random : P UInt8 System.random

/-- The property holds of what instructions are made of, but for pushes and pops. -/
structure OfWriters (P : (α : Type) → Action α → Prop) : Prop extends Compositional P where
  report : ∀ r, P Unit (System.report r)
  setV : ∀ k x, P Unit (System.setV k x)
  setI : ∀ x, P Unit (System.setI x)
  setDt : ∀ x, P Unit (System.setDt x)
  setSt : ∀ x, P Unit (System.setSt x)
  clearDisplay : P Unit System.clearDisplay
  random : P UInt8 System.random
  draw : ∀ x y n, P Unit (System.draw x y n)
  storeDecimal : ∀ address b, P Unit (System.writeBlock address (System.decimalDigits b))
  regDump : ∀ n : Nat, P Unit (System.regDump n)
  regLoad : ∀ k : VIndex, P Unit (System.regLoad (k : Nat))

variable {P Q : (α : Type) → Action α → Prop}

namespace OfStores

theorem mono (h : OfStores P) (comp : Compositional Q)
    (weaker : ∀ {α : Type} {a : Action α}, P α a → Q α a) : OfStores Q where
  toCompositional := comp
  refuse cause := weaker (h.refuse cause)
  report r := weaker (h.report r)
  cleared := weaker h.cleared
  drawn x y height := weaker (h.drawn x y height)
  setVAs hk x := weaker (h.setVAs hk x)
  setI x := weaker (h.setI x)
  setDt x := weaker (h.setDt x)
  setSt x := weaker (h.setSt x)
  setBytesAs offset length bytes := weaker (h.setBytesAs offset length bytes)
  drawRows x y r rows hit := weaker (h.drawRows x y r rows hit)
  random := weaker h.random

variable (h : OfStores P)
include h

theorem setV (k : VIndex) (x : Int) : P Unit (System.setV k x) :=
  h.setVAs (resolveIndex_register k) x

theorem setVAt (index : WholeNumber) (x : Int) : P Unit (System.setVAt index x) := by
  unfold System.setVAt
  split
  · next k hk => exact h.setVAs hk x
  · exact h.refuse _

theorem clearRegisters (ks : List VIndex) : P Unit (System.clearRegisters ks) := by
  induction ks with
  | nil => exact h.pure _
  | cons k rest ih => exact h.bind (h.setV k 0) fun _ => ih

theorem loadFrom (bytes : List UInt8) : ∀ index, P Unit (System.loadFrom index bytes) := by
  induction bytes with
  | nil => exact fun _ => h.pure _
  | cons b rest ih => exact fun index => h.bind (h.setVAt _ _) fun _ => ih _

theorem regLoad (n : Int) : P Unit (System.regLoad n) :=
  h.bind h.look fun _ => h.loadFrom _ _

theorem setItems (offset : Int) (ns : List Int) : P Unit (System.setItems offset ns) := by
  unfold System.setItems
  split
  · exact h.setBytesAs _ _ _
  · exact h.refuse _

theorem fillBytes (offset : WholeNumber) (b : UInt8) (length : WholeNumber) :
    P Unit (System.fillBytes offset b length) := by
  unfold System.fillBytes
  split
  · exact h.refuse _
  · split
    · exact h.refuse _
    · split
      · exact h.setBytesAs _ _ _
      · exact h.refuse _

theorem setMemory (data : Data) (offset : WholeNumber) (length : Option WholeNumber) :
    P Unit (System.setMemory data offset length) := by
  cases data with
  | fill n => exact h.fillBytes _ _ _
  | items ns =>
    simp only [System.setMemory]
    split
    · exact h.refuse _
    · exact h.setBytesAs _ _ _

theorem writeBlock (address : Int) (ns : List Int) : P Unit (System.writeBlock address ns) := by
  simp only [System.writeBlock]
  split
  · exact h.setItems _ _
  · exact h.bind (h.setItems _ _) fun _ => h.setItems _ _

theorem regDump (n : Int) : P Unit (System.regDump n) :=
  h.bind h.look fun _ => h.writeBlock _ _

theorem clearDisplay : P Unit System.clearDisplay :=
  h.bind (h.fillBytes _ _ _) fun _ => h.cleared

theorem draw (x y : VIndex) (n : Nat) : P Unit (System.draw x y n) :=
  h.bind h.look fun _ => h.bind (h.drawRows _ _ _ _ _) fun _ =>
    h.bind (h.setV _ _) fun _ => h.drawn _ _ _

theorem pushStack (setSp : ∀ x, P Unit (System.setSp x)) (address : Int) :
    P Unit (System.pushStack address) := by
  refine h.bind h.look fun m => ?_
  split
  · exact h.refuse _
  · exact h.bind (h.setBytesAs _ _ _) fun _ => setSp _

theorem popStack (setSp : ∀ x, P Unit (System.setSp x)) : P UInt16 System.popStack := by
  refine h.bind h.look fun m => ?_
  split
  · exact h.refuse _
  · refine h.bind (setSp _) fun _ => h.bind h.look fun _ => ?_
    exact h.bind (h.setBytesAs _ _ _) fun _ => h.pure _

theorem loadProgram (setPc : ∀ x, P Unit (System.setPc x)) (image : List UInt8) :
    P Unit (System.loadProgram image) := by
  unfold System.loadProgram
  split
  · exact h.refuse _
  · exact h.bind (h.setBytesAs _ _ _) fun _ => h.bind (setPc _) fun _ => h.report _

theorem reset (setSp : ∀ x, P Unit (System.setSp x)) (setPc : ∀ x, P Unit (System.setPc x))
    (clear : P Unit (System.change fun m => { m with cycle := 0 })) : P Unit System.reset := by
  refine h.bind (h.fillBytes _ _ _) fun _ => h.bind h.clearDisplay fun _ => ?_
  refine h.bind (h.setBytesAs _ _ _) fun _ => h.bind (h.clearRegisters _) fun _ => ?_
  refine h.bind (h.setI _) fun _ => h.bind (setSp _) fun _ => h.bind (setPc _) fun _ => ?_
  refine h.bind (h.setDt _) fun _ => h.bind (h.setSt _) fun _ => ?_
  exact h.bind clear fun _ => h.report _

theorem press (setKey : ∀ key, P Unit (System.change fun m => { m with key := key }))
    (code : Option KeyCode) : P Unit (System.press code) := by
  unfold System.press
  cases code with
  | none => exact setKey none
  | some code =>
    dsimp only
    split
    · exact setKey _
    · exact h.refuse _

theorem writers : OfWriters P where
  toCompositional := h.toCompositional
  report := h.report
  setV := h.setV
  setI := h.setI
  setDt := h.setDt
  setSt := h.setSt
  clearDisplay := h.clearDisplay
  random := h.random
  draw := h.draw
  storeDecimal _ _ := h.writeBlock _ _
  regDump n := h.regDump n
  regLoad _ := h.regLoad _

end OfStores

theorem Compositional.skipIf (h : Compositional P) (condition : Machine → Bool) :
    P (Option Nat) (System.skipIf condition) := h.bind h.look fun _ => h.pure _

theorem OfWriters.perform (h : OfWriters P) {op : Operation}
    (call : op = .call → ∀ address, P Unit (System.pushStack address))
    (ret : op = .return → P UInt16 System.popStack) (o : Operands) :
    P (Option Nat) (System.perform op o) := by
  have value (k : VIndex) (x : Int) : P (Option Nat) (do System.setV k x; return none) :=
    h.bind (h.setV k x) fun _ => h.pure _
  refine h.bind h.look fun m => ?_
  cases op with
  | clearScreen => exact h.bind h.clearDisplay fun _ => h.pure _
  | «return» => exact h.bind (ret rfl) fun _ => h.pure _
  | call => exact h.bind (call rfl _) fun _ => h.pure _
  | routine | jump | jumpFrom => exact h.pure _
  | skipIfByte | skipUnlessByte | skipIfEqual | skipUnlessEqual | skipIfKey | skipUnlessKey =>
    exact h.skipIf _
  | setByte | addByte | copy | bitOr | bitAnd | bitXor | readDelay => exact value _ _
  | add | subtract | subtractFrom => exact h.bind (h.setV _ _) fun _ => value _ _
  | shiftRight | shiftLeft =>
    exact h.bind (h.setV _ _) fun _ => h.bind h.look fun _ => value _ _
  | random => exact h.bind h.random fun _ => value _ _
  | draw => exact h.bind (h.draw _ _ _) fun _ => h.pure _
  | awaitKey =>
    cases m.key with
    | none => exact h.pure _
    | some k => exact value _ _
  | setDelay => exact h.bind (h.setDt _) fun _ => h.pure _
  | setSound => exact h.bind (h.setSt _) fun _ => h.pure _
  | setIndex | addIndex | glyph => exact h.bind (h.setI _) fun _ => h.pure _
  | storeDecimal => exact h.bind (h.storeDecimal _ _) fun _ => h.pure _
  | dumpRegisters => exact h.bind (h.regDump _) fun _ => h.pure _
  | loadRegisters => exact h.bind (h.regLoad _) fun _ => h.pure _

/-- An unknown opcode is passed over with a record. -/
theorem OfWriters.execute (h : OfWriters P) (d : Decoded)
    (call : ∀ address, P Unit (System.pushStack address)) (ret : P UInt16 System.popStack) :
    P (Option Nat) (System.execute d) := by
  unfold System.execute
  cases d.row? with
  | none => exact h.bind h.look fun _ => h.bind (h.report _) fun _ => h.pure _
  | some e => exact h.perform (fun _ => call) (fun _ => ret) _

/-- The instruction at PC, from its announcement to the new PC. -/
theorem Compositional.instruction (h : Compositional P)
    (announce : P Unit (System.notify .step)) (execute : ∀ d, P (Option Nat) (System.execute d))
    (setPc : ∀ x, P Unit (System.setPc x)) :
    P Decoded Computer.instruction :=
  h.bind announce fun _ => h.bind h.look fun _ => h.bind (execute _) fun _ => h.bind h.look fun _ =>
    h.bind (setPc _) fun _ => h.pure _

end Action

namespace Timers

open Chip8.System

/-- What the timers do once the cycle has moved on. -/
def tick (t : Timers) : Action Bool := do
  let m ← look
  if m.cycle.value ≠ 0 || !t.enabled then return false
  else
    if m.dt ≠ 0 then setDt ((m.dt.toNat : Int) - 1)
    let m ← look
    if m.st ≠ 0 then setSt ((m.st.toNat : Int) - 1)
    return true

theorem advance_eq (t : Timers) :
    t.advance = (change fun m => { m with cycle := (m.cycle.value + 1) % (t.period : Int) })
      >>= fun _ => t.tick := rfl

theorem tick_of_parts {P : (α : Type) → Action α → Prop} (h : Action.Compositional P)
    (setDt : ∀ x, P Unit (setDt x)) (setSt : ∀ x, P Unit (setSt x)) (t : Timers) :
    P Bool t.tick := by
  have tickSt : P Bool (do
      let m ← look
      if m.st ≠ 0 then System.setSt ((m.st.toNat : Int) - 1)
      return true) := by
    refine h.bind h.look fun m => ?_
    split
    · exact h.bind (setSt _) fun _ => h.pure _
    · exact h.pure _
  refine h.bind h.look fun m => ?_
  split
  · exact h.pure _
  · dsimp only
    split
    · exact h.bind (setDt _) fun _ => tickSt
    · exact tickSt

theorem advance_of_parts {P : (α : Type) → Action α → Prop} (h : Action.Compositional P)
    (setDt : ∀ x, P Unit (setDt x)) (setSt : ∀ x, P Unit (setSt x)) {t : Timers}
    (count : P Unit (change fun m =>
      { m with cycle := (m.cycle.value + 1) % (t.period : Int) })) : P Bool t.advance :=
  h.bind count fun _ => tick_of_parts h setDt setSt t

end Timers

end Chip8

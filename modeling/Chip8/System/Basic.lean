import Chip8.Bus.Delivery

/-!
# Systems

A machine together with the bus on which it notifies its observers.

* An `Action` is written out step by step: it looks at the machine, alters it, notifies, writes
  to the log, and ends with a result or a fault. `System.run` carries it out; a fault, also one
  of an observer, keeps the changes before it.
* `System.change` alters the machine without a word, `System.notify` only tells; an operation
  that writes does both, in this order, so observers find the new value in place.
* To tell leaves the machine as it is: `run` hands observers the machine and takes none back.
-/

namespace Chip8

structure System (ω : Type) where
  machine : Machine
  bus : Bus ω

/-- An activity on a system, step by step. -/
inductive Action (α : Type) where
  | done (x : α)
  | fail (cause : Fault)
  | look (next : Machine → Action α)
  | change (f : Machine → Machine) (next : Action α)
  | notify (e : Event) (next : Action α)
  | report (r : LogRecord) (next : Action α)

namespace Action

variable {α β γ : Type}

/-- An activity, and another one that goes on from its result. -/
def andThen : Action α → (α → Action β) → Action β
  | .done x, rest => rest x
  | .fail cause, _ => .fail cause
  | .look next, rest => .look fun m => (next m).andThen rest
  | .change f next, rest => .change f (next.andThen rest)
  | .notify e next, rest => .notify e (next.andThen rest)
  | .report r next, rest => .report r (next.andThen rest)

instance : Monad Action where
  pure := done
  bind := andThen

theorem andThen_done (a : Action α) : a.andThen done = a := by
  induction a with
  | done | fail => rfl
  | look next ih => exact congrArg look (funext ih)
  | change f next ih => exact congrArg (change f) ih
  | notify e next ih => exact congrArg (notify e) ih
  | report r next ih => exact congrArg (report r) ih

theorem andThen_assoc (a : Action α) (f : α → Action β) (g : β → Action γ) :
    (a.andThen f).andThen g = a.andThen fun x => (f x).andThen g := by
  induction a with
  | done | fail => rfl
  | look next ih => exact congrArg look (funext ih)
  | change f next ih => exact congrArg (change f) ih
  | notify e next ih => exact congrArg (notify e) ih
  | report r next ih => exact congrArg (report r) ih

instance : LawfulMonad Action :=
  LawfulMonad.mk' Action andThen_done (fun _ _ => rfl) andThen_assoc

end Action

namespace System

variable {ω α : Type}

def look : Action Machine := .look .done

def change (f : Machine → Machine) : Action Unit := .change f (.done ())

def report (r : LogRecord) : Action Unit := .report r (.done ())

/-- The subscribers are told about an event. -/
def notify (e : Event) : Action Unit := .notify e (.done ())

/-- An end with a fault. -/
def refuse (cause : Fault) : Action α := .fail cause

def run [Observers ω] : Action α → System ω → Except Fault α × System ω
  | .done x, s => (.ok x, s)
  | .fail cause, s => (.error cause, s)
  | .look next, s => run (next s.machine) s
  | .change f next, s => run next { s with machine := f s.machine }
  | .report r next, s => run next { s with bus := s.bus.report r }
  | .notify e next, s =>
    match s.bus.emit s.machine e with
    | (.ok (), bus) => run next { s with bus := bus }
    | (.error cause, bus) => (.error cause, { s with bus := bus })

end System

end Chip8

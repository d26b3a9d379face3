import Chip8.State.Fault

/-!
# Runners

A thread that takes a computer's steps, and how it is begun and ended.

* The runner holds the thread that was begun last, until somebody has waited for its end, and a
  flag by which the thread is told to stop.
* `Runner.join` waits for the thread to end. A thread does not wait for itself.
* `Runner.start` does nothing where the runner runs, and is refused where a thread that was told to
  stop is still there. `Runner.stop` tells the thread to stop and waits for it.
-/

namespace Chip8

inductive Thread where
  | alive
  | ended
  deriving DecidableEq

/-- The thread that a call comes from. -/
inductive Caller where
  /-- The runner's own, on which observers are called. -/
  | inside
  /-- Any other. The runner's thread may end in the time that it is waited for. -/
  | outside (inTime : Bool)
  deriving DecidableEq

structure Runner where
  thread : Option Thread
  stopping : Bool
  /-- How many threads were begun so far. -/
  begun : Nat
  /-- The fault that ended the last run, if one did. -/
  lastFault : Option Fault

namespace Runner

def new : Runner := ⟨none, false, 0, none⟩

def isRunning (r : Runner) : Bool := r.thread = some .alive && !r.stopping

/-- The thread comes to its end. -/
def ended (r : Runner) : Runner := { r with thread := r.thread.map fun _ => .ended }

def join (r : Runner) : Caller → Runner
  | .inside => r
  | .outside inTime =>
    let r := if inTime then r.ended else r
    if r.thread = some .ended then { r with thread := none } else r

/-- The runner with a new thread, or nothing where it runs already. -/
def start (r : Runner) (caller : Caller) : Except Fault (Option Runner) :=
  if r.isRunning then .ok none
  else if (r.join caller).thread.isSome then .error .runnerActive
  else .ok (some ⟨some .alive, false, r.begun + 1, none⟩)

def stop (r : Runner) (caller : Caller) : Runner := { r with stopping := true }.join caller

/-- A fault is kept and stops the thread. -/
def halt (r : Runner) (cause : Fault) : Runner :=
  { r with lastFault := some cause, stopping := true }

end Runner

end Chip8

import Chip8.Number.Binary64

/-!
# Pacing

How a loop keeps its rounds an interval apart.

* A `Clock` is known by its readings: the first one, and by how much each is later than the one
  before, besides what was waited in between. Sums of times are exact.
* After a round the loop waits for what is left of the interval (`Pacing.next`). One that is late
  does not catch up: its next round is due at once, and the one after it an interval later.
* Less than `2 ^ 63` nanoseconds can be waited for. Who is told to stop waits for nothing.
-/

namespace Chip8

structure Clock where
  first : Rat
  /-- By how much a reading is later than the one before it. -/
  lapse : Nat → Rat
  forward : ∀ n, 0 ≤ lapse n

/-- A clock that goes on only while somebody waits. -/
def Clock.still : Clock := ⟨0, fun _ => 0, fun _ => Rat.le_refl⟩

/-- What is left of the time to the next round. -/
inductive Delay where
  | due
  | seconds (s : Rat)
  | endless

namespace Delay

/-- What is left of an interval when some time has gone. -/
def left (interval : Binary64) (gone : Rat) : Delay :=
  match interval.value with
  | .nan => .due
  | .infinite negative => if negative then .due else .endless
  | .finite negative mantissa exponent =>
    let s := Binary64.exact negative mantissa exponent - gone
    if 0 < s then .seconds s else .due

/-- A number of seconds that is too long to be waited for. -/
def limit : Rat := mkRat (Nat.pow 2 63) (Nat.pow 10 9)

def canWait : Delay → Bool
  | .due => true
  | .seconds s => s < limit
  | .endless => false

end Delay

/-- A loop between two rounds. -/
structure Pacing where
  /-- When the last round was due. -/
  deadline : Rat
  now : Rat
  readings : Nat

namespace Pacing

def start (clock : Clock) : Pacing := ⟨clock.first, clock.first, 0⟩

def read (clock : Clock) (p : Pacing) : Pacing :=
  { p with now := p.now + clock.lapse p.readings, readings := p.readings + 1 }

/-- What is left of the interval from the deadline on. -/
def delay (interval : Binary64) (p : Pacing) : Delay := .left interval (p.now - p.deadline)

/-- From one round to the next, unless the time between them is too long. -/
def next (clock : Clock) (interval : Binary64) (stopping : Bool) (p : Pacing) : Option Pacing :=
  let p := p.read clock
  match p.delay interval with
  | .due =>
    let p := p.read clock
    some { p with deadline := p.now }
  | .seconds s =>
    if stopping then some p
    else if (Delay.seconds s).canWait then some ⟨p.now + s, p.now + s, p.readings⟩
    else none
  | .endless => if stopping then some p else none

end Pacing

end Chip8

import Chip8.Bus.Event

/-!
# Recorded events

Views of a list of events: those of one kind, and how many there are of each kind.
-/

namespace Chip8

def eventsOfKind (k : EventKind) (events : List Event) : List Event :=
  events.filter (·.kind = k)

/-- The counts with one more event of a kind; a new kind goes to the end. -/
def countKind (counts : List (EventKind × Nat)) (k : EventKind) : List (EventKind × Nat) :=
  if counts.any (·.1 = k) then
    counts.map fun (l, n) => if l = k then (l, n + 1) else (l, n)
  else counts ++ [(k, 1)]

/-- How many events there are of each kind, in the order in which the kinds first occur. -/
def kindCounts (events : List Event) : List (EventKind × Nat) :=
  (events.map Event.kind).foldl countKind []

end Chip8

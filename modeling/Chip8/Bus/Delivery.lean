import Chip8.Bus.Log
import Chip8.Bus.Subscription
import Chip8.State.Fault

/-!
# Delivery

How a notification reaches the observers.

* Observers see the event and the machine; they remember things of a type `ω`, and what they
  do is a list of requests: subscribe, unsubscribe, notify, write to the log, fail. Who notifies
  may handle what comes of it, or else fails with it.
* A delivery goes through the subscriptions as they were when it began, so changes made
  on the way count from the next one on. A failing observer ends it; what was done stays.
* Notifications sent from within a delivery nest, to the depth that the observers need.
-/

namespace Chip8

/-- What an observer asks for when it is told about an event. There is nothing else that it can do:
it sees the machine, and no request writes it. An observer that does write the machine is a writer
from outside and not one of these. -/
inductive Request where
  | subscribe (who : ObserverId) (filter : EventFilter)
  | unsubscribe (who : ObserverId)
  | notify (e : Event)
  /-- A notification after which the observer goes on, whatever came of it. -/
  | attempt (e : Event)
  | report (r : LogRecord)
  | fail (cause : Fault)
  deriving DecidableEq

/-- How observers that remember things of a type behave. -/
class Observers (ω : Type) where
  /-- What an observer remembers and asks for after an event. -/
  react : ObserverId → Event → Machine → ω → ω × List Request
  /-- How deep notifications of observers may nest. -/
  nesting : Nat

/-- The subscriptions, the observers' memory, and the log with its last record first. -/
structure Bus (ω : Type) where
  subscriptions : Subscriptions
  observers : ω
  log : List LogRecord

namespace Bus

variable {ω : Type}

/-- What comes of an activity on the bus: an end or a fault, and the bus after it. -/
abbrev Outcome (ω : Type) := Except Fault Unit × Bus ω

/-- An activity, and another one after it unless it fails. -/
def Outcome.andThen (o : Outcome ω) (next : Bus ω → Outcome ω) : Outcome ω :=
  match o with
  | (.ok (), b) => next b
  | (.error cause, b) => (.error cause, b)

namespace Outcome

variable {o : Outcome ω} {next : Bus ω → Outcome ω}

/-- What both activities keep stays, also after a failure. -/
theorem keeps_andThen (P : Bus ω → Prop) (h : P o.2) (keeps : ∀ b, P b → P (next b).2) :
    P (o.andThen next).2 := by
  obtain ⟨result, b⟩ := o
  cases result with
  | ok => exact keeps b h
  | error cause => exact h

theorem eq_of_andThen_ok {last : Bus ω} (h : o.andThen next = (.ok (), last)) :
    ∃ b, o = (.ok (), b) ∧ next b = (.ok (), last) := by
  obtain ⟨result, b⟩ := o
  cases result with
  | ok => exact ⟨b, rfl, h⟩
  | error cause => cases h

end Outcome

def subscribe (b : Bus ω) (who : ObserverId) (filter : EventFilter) : Bus ω :=
  { b with subscriptions := b.subscriptions.subscribe who filter }

/-- The bus with an observer's subscription removed. -/
def unsubscribe (b : Bus ω) (who : ObserverId) : Bus ω :=
  { b with subscriptions := b.subscriptions.unsubscribe who }

/-- The bus with one more record in the log. -/
def report (b : Bus ω) (r : LogRecord) : Bus ω := { b with log := r :: b.log }

/-- Requests are met in order, up to a failure. -/
def meet (notify : Event → Bus ω → Outcome ω) : List Request → Bus ω → Outcome ω
  | [], b => (.ok (), b)
  | .subscribe who filter :: rest, b => meet notify rest (b.subscribe who filter)
  | .unsubscribe who :: rest, b => meet notify rest (b.unsubscribe who)
  | .report r :: rest, b => meet notify rest (b.report r)
  | .fail cause :: _, b => (.error cause, b)
  | .notify e :: rest, b =>
    match notify e b with
    | (.ok (), b) => meet notify rest b
    | (.error cause, b) => (.error cause, b)
  | .attempt e :: rest, b => meet notify rest (notify e b).2

theorem meet_cons (notify : Event → Bus ω → Outcome ω) (r : Request) (rest : List Request)
    (b : Bus ω) :
    meet notify (r :: rest) b = (meet notify [r] b).andThen (meet notify rest) := by
  cases r with
  | notify e =>
    simp only [meet]
    cases result : notify e b with
    | mk outcome b' => cases outcome <;> rfl
  | _ => rfl

theorem meet_notify (notify : Event → Bus ω → Outcome ω) (e : Event) (b : Bus ω) :
    meet notify [.notify e] b = notify e b := by
  rw [meet]
  obtain ⟨result, b'⟩ := notify e b
  cases result <;> rfl

/-- What each of the requests keeps stays. -/
theorem meet_keeps {notify : Event → Bus ω → Outcome ω} (P : Bus ω → Prop)
    {requests : List Request} (keeps : ∀ r ∈ requests, ∀ b, P b → P (meet notify [r] b).2)
    {b : Bus ω} (h : P b) : P (meet notify requests b).2 := by
  induction requests generalizing b with
  | nil => exact h
  | cons r rest ih =>
    obtain ⟨first, others⟩ := List.forall_mem_cons.mp keeps
    rw [meet_cons]
    exact Outcome.keeps_andThen P (first b h) fun _ => ih others

/-- Records go to the log, and nothing else comes of them. -/
theorem meet_reports (notify : Event → Bus ω → Outcome ω) (records : List LogRecord) (b : Bus ω) :
    ∃ log, meet notify (records.map .report) b = (.ok (), { b with log := log }) := by
  induction records generalizing b with
  | nil => exact ⟨b.log, rfl⟩
  | cons r rest ih => exact ih (b.report r)

variable [Observers ω]

/-- The observers of the given subscriptions are told, in order, up to a failure. -/
def deliver (notify : Event → Bus ω → Outcome ω) (m : Machine) (e : Event) :
    Subscriptions → Bus ω → Outcome ω
  | [], b => (.ok (), b)
  | s :: rest, b =>
    if s.filter.admits e.kind then
      let (memory, requests) := Observers.react s.observer e m b.observers
      match meet notify requests { b with observers := memory } with
      | (.ok (), b) => deliver notify m e rest b
      | (.error cause, b) => (.error cause, b)
    else deliver notify m e rest b

/-- A notification that may have others nested in it. -/
def emitWithin (m : Machine) : Nat → Event → Bus ω → Outcome ω
  | 0, _, b => (.error .nestedTooDeep, b)
  | depth + 1, e, b => deliver (emitWithin m depth) m e b.subscriptions b

def emit (m : Machine) (e : Event) (b : Bus ω) : Outcome ω :=
  emitWithin m (Observers.nesting ω + 1) e b

variable {notify : Event → Bus ω → Outcome ω} {m : Machine} {e : Event}

/-- A subscriber who is told about an event, and the others after it. -/
theorem deliver_of_admits {s : Subscription} (h : s.filter.admits e.kind) (rest : Subscriptions)
    (b : Bus ω) :
    deliver notify m e (s :: rest) b =
      (meet notify (Observers.react s.observer e m b.observers).2
        { b with observers := (Observers.react s.observer e m b.observers).1 }).andThen
        (deliver notify m e rest) := if_pos h

theorem deliver_of_not_admits {s : Subscription} (h : ¬ s.filter.admits e.kind)
    (rest : Subscriptions) (b : Bus ω) :
    deliver notify m e (s :: rest) b = deliver notify m e rest b := if_neg h

end Bus

end Chip8

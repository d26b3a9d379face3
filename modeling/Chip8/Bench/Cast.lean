import Chip8.Bus.Delivery

/-!
# The cast of a bench

Scripted observers for trying out a machine.

* The monitor records every event that it is told about.
* An actor notes each event and, at a given call, unsubscribes itself, fails, or subscribes
  or unsubscribes another one; a probe also notes what the machine holds at that moment.
* An actor is made when its name first comes up, and keeps its count of calls from then on.
-/

namespace Chip8

inductive Behaviour where
  | note
  /-- It keeps events for later, without a note. -/
  | keep
  | leave
  | fail
  /-- It subscribes another actor to all events. -/
  | add
  | drop
  /-- It notes what the machine holds. -/
  | probe
  deriving DecidableEq

structure Actor where
  behaviour : Behaviour
  /-- The call at which it acts. -/
  call : Int
  /-- The actor that it acts on. -/
  other : Text
  calls : Nat
  /-- The events it keeps, the last one first. -/
  kept : List Event

def Actor.noting : Actor := ⟨.note, 1, [], 0, []⟩

/-- What a probe sees. -/
inductive Sight where
  | bytes (bs : List UInt8)
  | value (n : Nat)
  | glance (pc lit : Nat)

inductive Note where
  | told (name : Text) (e : Event)
  | probed (name : Text) (e : Event) (sight : Sight)
  /-- The key that a keypad holds after a press. -/
  | held (key : Option Key)

/-- The actors by name, and what monitor and actors wrote down, the last first. -/
structure Cast where
  actors : List (Text × Actor)
  seen : List Event
  notes : List Note

namespace Cast

def empty : Cast := ⟨[], [], []⟩

def find? (c : Cast) (name : Text) : Option Actor := (c.actors.find? (·.1 == name)).map (·.2)

/-- The cast with an actor of a name, unless there is one already. -/
def mention (c : Cast) (name : Text) (actor : Actor) : Cast :=
  if (c.find? name).isSome then c else { c with actors := c.actors ++ [(name, actor)] }

/-- The cast with the actor of a name replaced. -/
def update (c : Cast) (name : Text) (actor : Actor) : Cast :=
  { c with actors := c.actors.map fun a => if a.1 == name then (name, actor) else a }

def note (c : Cast) (n : Note) : Cast := { c with notes := n :: c.notes }

end Cast

/-- What a probe sees of a machine after an event. -/
def Machine.sight (m : Machine) (e : Event) : Except IndexFault Sight :=
  match e with
  | .memory offset length =>
    let window := Window.slice memorySize offset.value (offset.value + length.value)
    return .bytes (window.bytes m.memory)
  | .register .i => return .value m.i.toNat
  | .register .pc => return .value m.pc.toNat
  | .register .sp => return .value m.sp.toNat
  | .register .dt => return .value m.dt.toNat
  | .register .st => return .value m.st.toNat
  | .register (.v index) => do
    let k ← resolveIndex .buffer registerCount index.value
    return .value (m.v.get k).toNat
  | .cleared | .drawn _ _ _ | .step => return .glance m.pc.toNat m.litCount

/-- What an actor asks for at the call at which it acts. -/
def Actor.requests (a : Actor) (name : Text) : List Request :=
  match a.behaviour with
  | .note | .keep | .probe => []
  | .leave => [.unsubscribe (.client name)]
  | .fail => [.fail (.observer name)]
  | .add => [.subscribe (.client a.other) none]
  | .drop => [.unsubscribe (.client a.other)]

namespace Cast

/-- An actor is told about an event. -/
def tell (c : Cast) (name : Text) (e : Event) (m : Machine) : Cast × List Request :=
  let actor := (c.find? name).getD .noting
  let c := c.mention name actor
  match actor.behaviour with
  | .keep => (c.update name { actor with kept := e :: actor.kept }, [])
  | .probe =>
    let c := c.update name { actor with calls := actor.calls + 1 }
    match m.sight e with
    | .ok sight => (c.note (.probed name e sight), [])
    | .error cause => (c, [.fail (.index cause)])
  | _ =>
    let actor := { actor with calls := actor.calls + 1 }
    let c := (c.update name actor).note (.told name e)
    if (actor.calls : Int) = actor.call then
      let c := match actor.behaviour with
        | .add | .drop => c.mention actor.other .noting
        | _ => c
      (c, actor.requests name)
    else (c, [])

end Cast

instance : Observers Cast where
  react who e m c :=
    match who with
    | .monitor => ({ c with seen := e :: c.seen }, [])
    | .supervisor => (c, [])
    | .client name => c.tell name e m
  nesting := 0

end Chip8

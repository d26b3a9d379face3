import Chip8.Bus.Delivery
import Mathlib.Data.List.Nodup
import Mathlib.Logic.Relation

/-!
# Who is told

Whatever observers do to the subscriptions while they are told about an event, it goes to those
whose subscriptions asked for it when its emission began.

* `Bus.Orderly`: nobody is subscribed twice, and who subscribes again goes to the end.
* `Bus.Stays`: a property of the bus that observers keep, whatever they ask for, stays through every
  notification (`Stays.emitWithin`).
* `Emission`: an event with the bus on which it is emitted. Observers that are called in it may
  emit others, which are `Within` it, to any depth.
* `Emission.delivered`: an emission calls its audience one after another, up to an observer that
  raises; what was done to the subscriptions by then stays done.
* `Bus.delivery_stable` says so of every emission on a bus that is used in any way.
-/

namespace Chip8

namespace Subscriptions

variable {l before after : Subscriptions} {s : Subscription}

theorem unsubscribe_middle (h : Distinct (before ++ s :: after)) :
    unsubscribe (before ++ s :: after) s.observer = before ++ after := by
  have others : ∀ t ∈ before ++ after, t.observer ≠ s.observer := by
    rw [Distinct, observers, List.map_append, List.map_cons, List.nodup_middle] at h
    intro t ht same
    rw [List.nodup_cons, ← same, ← List.map_append] at h
    exact h.1 (List.mem_map_of_mem ht)
  have kept : unsubscribe (before ++ after) s.observer = before ++ after :=
    List.filter_eq_self.mpr fun t ht => decide_eq_true (others t ht)
  rw [unsubscribe, List.filter_append] at kept
  rw [unsubscribe, List.filter_append, List.filter_cons_of_neg (by simp), kept]

/-- The observers that ask for a kind of events, in the order of their subscriptions. -/
def asking (l : Subscriptions) (k : EventKind) : List ObserverId :=
  observers (l.filter fun s => s.filter.admits k)

theorem asking_cons_of_admits {k : EventKind} (admits : s.filter.admits k = true)
    (l : Subscriptions) : asking (s :: l) k = s.observer :: asking l k :=
  congrArg observers (List.filter_cons_of_pos admits)

theorem asking_cons_of_not_admits {k : EventKind} (admits : ¬ s.filter.admits k = true)
    (l : Subscriptions) : asking (s :: l) k = asking l k :=
  congrArg observers (List.filter_cons_of_neg admits)

theorem Distinct.asking (h : Distinct l) (k : EventKind) : (asking l k).Nodup :=
  (List.filter_sublist.map _).nodup h

end Subscriptions

namespace Bus

variable {ω : Type}

/-- Nobody is subscribed twice. -/
abbrev Distinct (b : Bus ω) : Prop := Subscriptions.Distinct b.subscriptions

/-- Nobody is subscribed twice, and subscriptions come and go in order. -/
structure Orderly (b : Bus ω) : Prop where
  distinct : b.Distinct
  joined : ∀ who filter, (∀ s ∈ b.subscriptions, s.observer ≠ who) →
    (b.subscribe who filter).subscriptions = b.subscriptions ++ [⟨who, filter⟩]
  renewed : ∀ before s after filter, b.subscriptions = before ++ s :: after →
    (b.subscribe s.observer filter).subscriptions = before ++ after ++ [⟨s.observer, filter⟩]
  dropped : ∀ before s after, b.subscriptions = before ++ s :: after →
    (b.unsubscribe s.observer).subscriptions = before ++ after

theorem orderly_of_distinct {b : Bus ω} (h : b.Distinct) : b.Orderly where
  distinct := h
  joined who filter new := by
    have kept : Subscriptions.unsubscribe b.subscriptions who = b.subscriptions :=
      List.filter_eq_self.mpr fun s hs => decide_eq_true (new s hs)
    rw [subscribe, Subscriptions.subscribe, kept]
  renewed before s after filter split := by
    rw [Distinct, split] at h
    rw [subscribe, Subscriptions.subscribe, split, Subscriptions.unsubscribe_middle h]
  dropped before s after split := by
    rw [Distinct, split] at h
    rw [unsubscribe, split, Subscriptions.unsubscribe_middle h]

/-- The notification keeps a property of the bus, also where it fails. -/
def Keeps (P : Bus ω → Prop) (notify : Event → Bus ω → Outcome ω) : Prop :=
  ∀ e b, P b → P (notify e b).2

/-- Subscriptions may come and go and records may be written under the property. -/
structure KeptByRequests (P : Bus ω → Prop) : Prop where
  subscribe : ∀ {b} who filter, P b → P (b.subscribe who filter)
  unsubscribe : ∀ {b} who, P b → P (b.unsubscribe who)
  report : ∀ {b} r, P b → P (b.report r)

theorem KeptByRequests.meet {P : Bus ω → Prop} (kept : KeptByRequests P)
    {notify : Event → Bus ω → Outcome ω} (nested : Keeps P notify) (requests : List Request)
    {b : Bus ω} (h : P b) : P (Bus.meet notify requests b).2 := by
  refine meet_keeps P (fun r _ b h => ?_) h
  cases r with
  | subscribe who filter => exact kept.subscribe who filter h
  | unsubscribe who => exact kept.unsubscribe who h
  | report r => exact kept.report r h
  | fail cause => exact h
  | attempt e => exact nested e b h
  | notify e =>
    rw [meet_notify]
    exact nested e b h

/-- The property stays whatever comes of a notification: the observers keep it too, when they
remember what they were told. -/
structure Stays [Observers ω] (P : Bus ω → Prop) : Prop extends KeptByRequests P where
  react : ∀ {b} who e m, P b → P { b with observers := (Observers.react who e m b.observers).1 }

namespace Stays

variable [Observers ω] {P : Bus ω → Prop}

theorem deliver (stays : Stays P) {notify : Event → Bus ω → Outcome ω} (nested : Keeps P notify)
    (m : Machine) (e : Event) (l : Subscriptions) {b : Bus ω} (h : P b) :
    P (Bus.deliver notify m e l b).2 := by
  induction l generalizing b with
  | nil => exact h
  | cons s rest ih =>
    by_cases admits : s.filter.admits e.kind
    · have met := stays.meet nested (Observers.react s.observer e m b.observers).2
        (stays.react s.observer e m h)
      rw [deliver_of_admits admits]
      exact Outcome.keeps_andThen P met fun _ => ih
    · rw [deliver_of_not_admits admits]
      exact ih h

theorem emitWithin (stays : Stays P) (m : Machine) (depth : Nat) :
    Keeps P (Bus.emitWithin m depth) := by
  induction depth with
  | zero => exact fun _ _ h => h
  | succ depth ih => exact fun e b h => stays.deliver ih m e b.subscriptions h

theorem emit (stays : Stays P) (m : Machine) (e : Event) {b : Bus ω} (h : P b) :
    P (b.emit m e).2 := stays.emitWithin m _ e b h

end Stays

/-- The notification leaves nobody subscribed twice where nobody was. -/
def KeepsDistinct (notify : Event → Bus ω → Outcome ω) : Prop :=
  ∀ e b, b.Distinct → (notify e b).2.Distinct

theorem distinct_kept : KeptByRequests (Distinct (ω := ω)) where
  subscribe who filter h := h.subscribe who filter
  unsubscribe who h := h.unsubscribe who
  report _ h := h

theorem keepsDistinct_emitWithin [Observers ω] (m : Machine) (depth : Nat) :
    KeepsDistinct (ω := ω) (emitWithin m depth) := by
  have stays : Stays (Distinct (ω := ω)) := { distinct_kept with react := fun _ _ _ h => h }
  exact stays.emitWithin m depth

end Bus

namespace Bus

variable {ω : Type} {notify : Event → Bus ω → Outcome ω}

/-- Some requests are met, and the others are left. -/
inductive Pause (notify : Event → Bus ω → Outcome ω) (requests : List Request) (b : Bus ω) :
    List Request → Bus ω → Prop
  | start : Pause notify requests b requests b
  | next {r : Request} {left : List Request} {b₁ b₂ : Bus ω}
      (paused : Pause notify requests b (r :: left) b₁) (met : meet notify [r] b₁ = (.ok (), b₂)) :
      Pause notify requests b left b₂

/-- The request raises: it is a failure, or a notification that fails. -/
inductive Raises (notify : Event → Bus ω → Outcome ω) : Request → Bus ω → Fault → Bus ω → Prop
  | fail (cause : Fault) (b : Bus ω) : Raises notify (.fail cause) b cause b
  | notify {e : Event} {b b' : Bus ω} {cause : Fault} (failed : notify e b = (.error cause, b')) :
      Raises notify (.notify e) b cause b'

theorem raises_of_meet {r : Request} {b b' : Bus ω} {cause : Fault}
    (h : meet notify [r] b = (.error cause, b')) : Raises notify r b cause b' := by
  cases r with
  | fail cause =>
    cases h
    exact .fail _ _
  | notify e => exact .notify ((meet_notify notify e b).symm.trans h)
  | subscribe | unsubscribe | report | attempt => cases h

theorem Pause.after {requests left : List Request} {r : Request} {b b₁ b' : Bus ω}
    (met : meet notify [r] b = (.ok (), b₁)) (paused : Pause notify requests b₁ left b') :
    Pause notify (r :: requests) b left b' := by
  induction paused with
  | start => exact .next .start met
  | next _ later ih => exact .next ih later

/-- Requests are met to their end, or up to one that raises. -/
theorem meet_cases (notify : Event → Bus ω → Outcome ω) (requests : List Request) (b : Bus ω) :
    (∃ b', meet notify requests b = (.ok (), b') ∧ Pause notify requests b [] b') ∨
    ∃ r left b₁ cause b', meet notify requests b = (.error cause, b') ∧
      Pause notify requests b (r :: left) b₁ ∧ Raises notify r b₁ cause b' := by
  induction requests generalizing b with
  | nil => exact .inl ⟨b, rfl, .start⟩
  | cons r rest ih =>
    rw [meet_cons]
    cases met : meet notify [r] b with
    | mk outcome b₁ =>
      cases outcome with
      | error cause => exact .inr ⟨r, rest, b, cause, b₁, rfl, .start, raises_of_meet met⟩
      | ok _ =>
        rcases ih b₁ with ⟨b', done, paused⟩ | ⟨r', left, b₂, cause, b', failed, paused, raises⟩
        · exact .inl ⟨b', done, paused.after met⟩
        · exact .inr ⟨r', left, b₂, cause, b', failed, paused.after met, raises⟩

theorem Pause.distinct (nested : KeepsDistinct notify) {requests left : List Request}
    {b b' : Bus ω} (h : b.Distinct) (paused : Pause notify requests b left b') :
    b'.Distinct := by
  induction paused with
  | start => exact h
  | @next r _ b₁ _ _ met ih =>
    have kept := distinct_kept.meet nested [r] ih
    rw [met] at kept
    exact kept

end Bus

/-- An event that is emitted on a bus, with room for emissions of the observers. -/
structure Emission (ω : Type) where
  depth : Nat
  event : Event
  bus : Bus ω

namespace Emission

variable {ω : Type} [Observers ω] (m : Machine) (y : Emission ω)

def outcome : Bus.Outcome ω := Bus.emitWithin m (y.depth + 1) y.event y.bus

/-- The observers that ask for the event when its emission begins. -/
def audience : List ObserverId := Subscriptions.asking y.bus.subscriptions y.event.kind

/-- What an observer remembers and asks for once it is told. -/
def told (who : ObserverId) (b : Bus ω) : Bus ω × List Request :=
  let reaction := Observers.react who y.event m b.observers
  ({ b with observers := reaction.1 }, reaction.2)

/-- The requests that are left of an observer that was called on a bus, and the bus as it is by
then. -/
def Paused (who : ObserverId) (b : Bus ω) : List Request → Bus ω → Prop :=
  Bus.Pause (Bus.emitWithin m y.depth) (y.told m who b).2 (y.told m who b).1

/-- Observers are called one after another, and none of them raises. -/
inductive Calls : List ObserverId → Bus ω → Bus ω → Prop
  | nobody (b : Bus ω) : Calls [] b b
  | call {who : ObserverId} {rest : List ObserverId} {b b₁ b₂ : Bus ω}
      (called : y.Paused m who b [] b₁) (others : Calls rest b₁ b₂) : Calls (who :: rest) b b₂

/-- The whole audience is called, or all up to an observer that raises. -/
inductive Delivered : Prop
  | all {b : Bus ω} (done : y.outcome m = (.ok (), b)) (calls : y.Calls m y.audience y.bus b)
  | cut {before later : List ObserverId} {who : ObserverId} {b b₁ b₂ : Bus ω} {r : Request}
      {left : List Request} {cause : Fault} (stopped : y.outcome m = (.error cause, b₂))
      (split : y.audience = before ++ who :: later) (calls : y.Calls m before y.bus b)
      (paused : y.Paused m who b (r :: left) b₁)
      (raises : Bus.Raises (Bus.emitWithin m y.depth) r b₁ cause b₂)

/-- The bus at some moment of the emission: an observer of the audience is being called. -/
def Passes (left : List Request) (b' : Bus ω) : Prop :=
  ∃ before who later b, y.audience = before ++ who :: later ∧ y.Calls m before y.bus b ∧
    y.Paused m who b left b'

/-- An observer that is called in an emission emits an event. Where there is no more room, that
fails before anybody is called. -/
inductive Nests : Emission ω → Emission ω → Prop
  | notify {depth : Nat} {e e' : Event} {b b' : Bus ω} {left : List Request}
      (passes : Passes m ⟨depth + 1, e, b⟩ (.notify e' :: left) b') :
      Nests ⟨depth + 1, e, b⟩ ⟨depth, e', b'⟩
  | attempt {depth : Nat} {e e' : Event} {b b' : Bus ω} {left : List Request}
      (passes : Passes m ⟨depth + 1, e, b⟩ (.attempt e' :: left) b') :
      Nests ⟨depth + 1, e, b⟩ ⟨depth, e', b'⟩

/-- The second emission comes about in the first one, or in one that does. -/
def Within : Emission ω → Emission ω → Prop := Relation.ReflTransGen (Nests m)

variable {m y} {b b' : Bus ω}

theorem Paused.distinct {who : ObserverId} {left : List Request} (paused : y.Paused m who b left b')
    (h : b.Distinct) : b'.Distinct := by
  have told : (y.told m who b).1.Distinct := h
  exact Bus.Pause.distinct (Bus.keepsDistinct_emitWithin m y.depth) told paused

theorem Calls.distinct {whos : List ObserverId} (calls : y.Calls m whos b b')
    (h : b.Distinct) : b'.Distinct := by
  induction calls with
  | nobody => exact h
  | call called _ ih => exact ih (Paused.distinct called h)

theorem Passes.distinct {left : List Request} (passes : y.Passes m left b')
    (h : y.bus.Distinct) : b'.Distinct := by
  obtain ⟨before, who, later, b, -, calls, paused⟩ := passes
  exact paused.distinct (calls.distinct h)

theorem Nests.distinct {z : Emission ω} (nests : Nests m y z)
    (h : y.bus.Distinct) : z.bus.Distinct := by
  cases nests with
  | notify passes => exact passes.distinct h
  | attempt passes => exact passes.distinct h

theorem Within.distinct {z : Emission ω} (within : Within m y z)
    (h : y.bus.Distinct) : z.bus.Distinct := by
  induction within with
  | refl => exact h
  | tail _ nests ih => exact nests.distinct ih

/-- A delivery calls the observers that some subscriptions ask for, or stops at one that raises. -/
theorem deliver_cases (m : Machine) (y : Emission ω) (l : Subscriptions) (b : Bus ω) :
    let whos := Subscriptions.asking l y.event.kind
    let outcome := Bus.deliver (Bus.emitWithin m y.depth) m y.event l b
    (∃ b', outcome = (.ok (), b') ∧ y.Calls m whos b b') ∨
    ∃ before who later b₀ b₁ b₂ r left cause, outcome = (.error cause, b₂) ∧
      whos = before ++ who :: later ∧ y.Calls m before b b₀ ∧
      y.Paused m who b₀ (r :: left) b₁ ∧ Bus.Raises (Bus.emitWithin m y.depth) r b₁ cause b₂ := by
  induction l generalizing b with
  | nil => exact .inl ⟨b, rfl, .nobody b⟩
  | cons s rest ih =>
    by_cases admits : s.filter.admits y.event.kind = true
    · have called : Bus.deliver (Bus.emitWithin m y.depth) m y.event (s :: rest) b =
          (Bus.meet (Bus.emitWithin m y.depth) (y.told m s.observer b).2
            (y.told m s.observer b).1).andThen
            (Bus.deliver (Bus.emitWithin m y.depth) m y.event rest) :=
        Bus.deliver_of_admits admits rest b
      rw [Subscriptions.asking_cons_of_admits admits, called]
      rcases Bus.meet_cases (Bus.emitWithin m y.depth) (y.told m s.observer b).2
          (y.told m s.observer b).1 with
        ⟨b₁, met, paused⟩ | ⟨r, left, b₁, cause, b₂, failed, paused, raises⟩
      · rw [met]
        rcases ih b₁ with ⟨b', done, calls⟩ |
          ⟨before, who, later, b₀, b₂, b', r, left, cause, stopped, split, calls, later'⟩
        · exact .inl ⟨b', done, .call paused calls⟩
        · refine .inr ⟨s.observer :: before, who, later, b₀, b₂, b', r, left, cause, stopped, ?_,
            .call paused calls, later'⟩
          rw [split, List.cons_append]
      · rw [failed]
        exact .inr ⟨[], s.observer, _, b, b₁, b₂, r, left, cause, rfl, rfl, .nobody b, paused,
          raises⟩
    · rw [Subscriptions.asking_cons_of_not_admits admits, Bus.deliver_of_not_admits admits]
      exact ih b

/-- **An emission is delivered** to its audience. -/
theorem delivered (m : Machine) (y : Emission ω) : y.Delivered m := by
  rcases deliver_cases m y y.bus.subscriptions y.bus with ⟨b', done, calls⟩ |
    ⟨before, who, later, b, b₁, b₂, r, left, cause, stopped, split, calls, paused, raises⟩
  · exact .all done calls
  · exact .cut stopped split calls paused raises

end Emission

/-- What is done to a bus from outside. -/
inductive BusDeed where
  | subscribe (who : ObserverId) (filter : EventFilter)
  | unsubscribe (who : ObserverId)
  | emit (m : Machine) (e : Event)

namespace Bus

variable {ω : Type} [Observers ω]

/-- The bus after a deed, also after an emission that fails. -/
def undergo (b : Bus ω) : BusDeed → Bus ω
  | .subscribe who filter => b.subscribe who filter
  | .unsubscribe who => b.unsubscribe who
  | .emit m e => (b.emit m e).2

/-- An event emitted from outside. -/
def emission (b : Bus ω) (e : Event) : Emission ω := ⟨Observers.nesting ω, e, b⟩

theorem distinct_undergo {b : Bus ω} (h : b.Distinct) (x : BusDeed) : (b.undergo x).Distinct := by
  cases x with
  | subscribe who filter => exact h.subscribe who filter
  | unsubscribe who => exact h.unsubscribe who
  | emit m e => exact keepsDistinct_emitWithin m _ e b h

theorem distinct_foldl {b : Bus ω} (h : b.Distinct) (deeds : List BusDeed) :
    (deeds.foldl undergo b).Distinct := by
  induction deeds generalizing b with
  | nil => exact h
  | cons x rest ih => exact ih (distinct_undergo h x)

/-- **Deliveries are stable**, whatever observers do: each emission, also one that comes about in
another, calls those that asked for its event when it began. Nothing is assumed of the observers:
for any course of calls there are some that remember it, and ask call by call for what was done
in it. -/
theorem delivery_stable (memory : ω) (log : List LogRecord) (deeds : List BusDeed) :
    let b := deeds.foldl undergo ⟨[], memory, log⟩
    b.Orderly ∧ ∀ (m : Machine) (e : Event), b.emit m e = (b.emission e).outcome m ∧
      ∀ y, Emission.Within m (b.emission e) y → y.bus.Orderly ∧ y.audience.Nodup ∧
        y.Delivered m ∧ (∀ left b', y.Passes m left b' → b'.Orderly) ∧
        (y.outcome m).2.Orderly := by
  intro b
  have nobody : Subscriptions.Distinct [] := List.nodup_nil
  have distinct : b.Distinct := distinct_foldl nobody deeds
  refine ⟨orderly_of_distinct distinct, fun m e => ⟨rfl, fun y within => ?_⟩⟩
  have inside := within.distinct distinct
  refine ⟨orderly_of_distinct inside, inside.asking _, y.delivered m, ?_, ?_⟩
  · intro left b' passes
    exact orderly_of_distinct (passes.distinct inside)
  · exact orderly_of_distinct (keepsDistinct_emitWithin m (y.depth + 1) y.event y.bus inside)

/-- Who was called, the last first, and what the calls to come ask for. -/
structure Script where
  calls : List (ObserverId × Event)
  lines : List (List Request)

instance : Observers Script where
  react who e _ s := (⟨(who, e) :: s.calls, s.lines.tail⟩, s.lines.headD [])
  nesting := 1

/-- The first observer drops the second, takes another event for the third, lets in a fourth, and
emits an event at which that one raises. All three are still called. -/
theorem delivery_stable_scripted :
    let third : ObserverId := .client (Text.ofString "third")
    let fourth : ObserverId := .client (Text.ofString "fourth")
    let changes : List Request := [.unsubscribe .supervisor, .subscribe third (some [.register]),
      .subscribe fourth none, .attempt (.register .pc)]
    let deeds : List BusDeed := [.subscribe .monitor (some [.step]), .subscribe .supervisor none,
      .subscribe third (some [.step])]
    let b := deeds.foldl undergo ⟨[], (⟨[], [changes, [], [.fail .noRoom]]⟩ : Script), []⟩
    let m := Machine.powerOn .unseeded
    let y := b.emission .step
    let changed := (y.told m .monitor b).1.unsubscribe .supervisor
    let z : Emission Script := ⟨0, .register .pc,
      (changed.subscribe third (some [.register])).subscribe fourth none⟩
    y.audience = [.monitor, .supervisor, third] ∧ y.Delivered m ∧ (y.outcome m).2.Orderly ∧
      (y.outcome m).2.observers.calls.reverse = [(.monitor, .step), (third, .register .pc),
        (fourth, .register .pc), (.supervisor, .step), (third, .step)] ∧
      (y.outcome m).2.subscriptions =
        [⟨.monitor, some [.step]⟩, ⟨third, some [.register]⟩, ⟨fourth, none⟩] ∧
      z.audience = [third, fourth] ∧ z.Delivered m ∧ (z.outcome m).2.Orderly := by
  intro third fourth changes deeds b m y changed z
  obtain ⟨-, emissions⟩ := delivery_stable (⟨[], [changes, [], [.fail .noRoom]]⟩ : Script) [] deeds
  obtain ⟨-, within⟩ := emissions m .step
  have paused : y.Paused m .monitor b [.attempt (.register .pc)] z.bus :=
    .next (.next (.next .start rfl) rfl) rfl
  have nests : Emission.Nests m ⟨0 + 1, .step, b⟩ z :=
    .attempt ⟨[], .monitor, [.supervisor, third], b, rfl, .nobody b, paused⟩
  obtain ⟨-, -, delivered, -, orderly⟩ := within y .refl
  obtain ⟨-, -, delivered', -, orderly'⟩ := within z (.single nests)
  exact ⟨rfl, delivered, orderly, by decide +kernel, by decide +kernel, by decide +kernel,
    delivered', orderly'⟩

end Bus

end Chip8

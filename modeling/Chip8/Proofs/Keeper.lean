import Chip8.Proofs.Course
import Chip8.Proofs.Telling

/-!
# Observers who keep a mirror

An observer who copies what each event names has what the machine has, whatever the others say.

* `Mirrored` adds the mirror to what the other observers remember, and with it a `Sighting` of each
  event that was handled: the mirror after it, and the machine then.
* `Observers.Fair`: the others leave the keeper its subscription, no notification fails for them,
  and the events that they tell are `foreign` ones.
* While the machine tells an event, the keeper may be told foreign ones first: they find the mirror
  behind by what the event names, and no further (`Bus.Lags`). From the event itself on the mirror
  is right (`Bus.Lags.emit_own`).
* `Witnessed`: the sightings of all that the machine tells on its course, with the foreign ones
  between them (`Bus.Attends.play`).
-/

namespace Chip8

/-- What a mirror was when an event had been handled, and the machine at that event. -/
structure Sighting where
  event : Event
  mirror : Mirror
  machine : Machine

/-- What the others remember, and one observer's mirror. -/
structure Mirrored (ω : Type) where
  others : ω
  who : ObserverId
  mirror : Mirror
  /-- The events that were handled, in order. -/
  sightings : List Sighting

namespace Mirrored

variable {ω : Type}

/-- The keeper has handled an event, after which its mirror is a given one. -/
def sight (s : Mirrored ω) (e : Event) (mirror : Mirror) (m : Machine) : Mirrored ω :=
  { s with mirror := mirror, sightings := s.sightings ++ [⟨e, mirror, m⟩] }

end Mirrored

instance {ω : Type} [Observers ω] : Observers (Mirrored ω) where
  react who e m s :=
    if who = s.who then
      match s.mirror.follow e m with
      | .ok mirror => (s.sight e mirror m, [])
      | .error cause => (s, [.fail (.index cause)])
    else
      let (others, requests) := Observers.react who e m s.others
      ({ s with others := others }, requests)
  nesting := Observers.nesting ω

/-- The request leaves the keeper subscribed to all events, and the events that it tells are
foreign ones. -/
def Request.Fair (keeper : ObserverId) (foreign : Event → Prop) : Request → Prop
  | .subscribe who filter => who = keeper → filter = none
  | .unsubscribe who => who ≠ keeper
  | .notify e | .attempt e => foreign e
  | .report _ | .fail _ => True

/-- An event that another observer told while the machine had something to tell. The mirror was
right after it but for what that names. -/
structure Sighting.Foreign (foreign : Event → Prop) (pending : Event) (m : Machine) (x : Sighting) :
    Prop where
  event : foreign x.event
  machine : x.machine = m
  mirror : x.mirror.Lags pending m

/-- The keeper is subscribed to all events, once. -/
structure Bus.Attends {ω : Type} (keeper : ObserverId) (b : Bus (Mirrored ω)) : Prop where
  who : b.observers.who = keeper
  own : b.subscriptions.own keeper = [⟨keeper, none⟩]

/-- The others are fair to the keeper. They tell none but foreign events, and no notification fails
that the mirror can follow. -/
structure Observers.Fair (ω : Type) [Observers ω] (keeper : ObserverId) (foreign : Event → Prop) :
    Prop where
  asks : ∀ (who : ObserverId) (e : Event) (m : Machine) (memory : ω),
    ∀ r ∈ (Observers.react who e m memory).2, r.Fair keeper foreign
  ends : ∀ (m : Machine) (e : Event) (b : Bus (Mirrored ω)), e.Sound → b.Attends keeper →
    (b.emit m e).1 = .ok ()

namespace Bus

variable {ω : Type} {keeper : ObserverId} {b b' : Bus (Mirrored ω)}

namespace Attends

theorem subscribe (h : Attends keeper b) {who : ObserverId} {filter : EventFilter}
    (fair : who = keeper → filter = none) : Attends keeper (b.subscribe who filter) := by
  refine ⟨h.who, ?_⟩
  by_cases mine : who = keeper
  · subst mine
    obtain rfl := fair rfl
    exact Subscriptions.own_subscribe_self _ _ _
  · exact (Subscriptions.own_subscribe mine _ filter).trans h.own

theorem unsubscribe (h : Attends keeper b) {who : ObserverId} (other : who ≠ keeper) :
    Attends keeper (b.unsubscribe who) :=
  ⟨h.who, (Subscriptions.own_unsubscribe other _).trans h.own⟩

end Attends

/-- The keeper attends, its mirror is right but for what an event names, and since a start it saw
none but foreign events. -/
structure Lags (keeper : ObserverId) (foreign : Event → Prop) (pending : Event) (m : Machine)
    (start : List Sighting) (b : Bus (Mirrored ω)) : Prop extends Attends keeper b where
  mirror : b.observers.mirror.Lags pending m
  sightings : ∃ l, b.observers.sightings = start ++ l ∧ ∀ x ∈ l, x.Foreign foreign pending m

namespace Lags

variable {foreign : Event → Prop} {pending e : Event} {m : Machine} {start : List Sighting}
  {notify : Event → Bus (Mirrored ω) → Outcome (Mirrored ω)}

/-- Notifications of foreign events put the mirror no further behind. -/
def Bears (keeper : ObserverId) (foreign : Event → Prop) (m : Machine)
    (notify : Event → Bus (Mirrored ω) → Outcome (Mirrored ω)) : Prop :=
  ∀ pending start e b, foreign e → Lags keeper foreign pending m start b →
    Lags keeper foreign pending m start (notify e b).2

theorem meet (nested : Bears keeper foreign m notify) {requests : List Request}
    (fair : ∀ r ∈ requests, r.Fair keeper foreign) (h : Lags keeper foreign pending m start b) :
    Lags keeper foreign pending m start (Bus.meet notify requests b).2 := by
  refine meet_keeps (Lags keeper foreign pending m start) (fun r hr b h => ?_) h
  have fair := fair r hr
  cases r with
  | subscribe who filter => exact ⟨h.toAttends.subscribe fair, h.mirror, h.sightings⟩
  | unsubscribe who => exact ⟨h.toAttends.unsubscribe fair, h.mirror, h.sightings⟩
  | report r => exact ⟨⟨h.who, h.own⟩, h.mirror, h.sightings⟩
  | fail cause => exact h
  | attempt e => exact nested _ _ e b fair h
  | notify e =>
    rw [meet_notify]
    exact nested _ _ e b fair h

/-- The keeper handles a foreign event. -/
theorem sight_foreign (h : Lags keeper foreign pending m start b) (other : foreign e)
    {mirror : Mirror} (followed : b.observers.mirror.follow e m = .ok mirror) :
    Lags keeper foreign pending m start
      { b with observers := b.observers.sight e mirror m } := by
  have behind : mirror.Lags pending m := h.mirror.follow followed
  obtain ⟨l, seen, all⟩ := h.sightings
  refine ⟨⟨h.who, h.own⟩, behind, l ++ [⟨e, mirror, m⟩], ?_, ?_⟩
  · simp only [Mirrored.sight, seen, List.append_assoc]
  · rw [List.forall_mem_append]
    exact ⟨all, List.forall_mem_singleton.mpr ⟨other, rfl, behind⟩⟩

variable [Observers ω]

/-- Anyone but the keeper handles an event. -/
theorem handle_other (nested : Bears keeper foreign m notify)
    (fair : Observers.Fair ω keeper foreign)
    (h : Lags keeper foreign pending m start b) {who : ObserverId} (other : who ≠ keeper)
    (e : Event) :
    Lags keeper foreign pending m start (Bus.meet notify (Observers.react who e m b.observers).2
      { b with observers := (Observers.react who e m b.observers).1 }).2 := by
  have skipped : who ≠ b.observers.who := h.who ▸ other
  simp only [Observers.react, if_neg skipped]
  exact meet nested (fair.asks who e m _) ⟨⟨h.who, h.own⟩, h.mirror, h.sightings⟩

/-- The keeper handles an event. -/
theorem react_keeper (h : Attends keeper b) {mirror : Mirror}
    (followed : b.observers.mirror.follow e m = .ok mirror) :
    Observers.react keeper e m b.observers = (b.observers.sight e mirror m, []) := by
  simp only [Observers.react, if_pos h.who.symm, followed]

theorem react_keeper_error (h : Attends keeper b) {cause : IndexFault}
    (failed : b.observers.mirror.follow e m = .error cause) :
    Observers.react keeper e m b.observers = (b.observers, [.fail (.index cause)]) := by
  simp only [Observers.react, if_pos h.who.symm, failed]

/-- What is foreign, or is not told to the keeper, leaves the mirror no further behind. -/
theorem deliver (nested : Bears keeper foreign m notify) (fair : Observers.Fair ω keeper foreign)
    (l : Subscriptions) (spared : ∀ s ∈ l, s.observer = keeper → foreign e)
    (h : Lags keeper foreign pending m start b) :
    Lags keeper foreign pending m start (Bus.deliver notify m e l b).2 := by
  induction l generalizing b with
  | nil => exact h
  | cons s rest ih =>
    obtain ⟨hs, hrest⟩ := List.forall_mem_cons.mp spared
    by_cases admits : s.filter.admits e.kind
    · rw [deliver_of_admits admits]
      by_cases mine : s.observer = keeper
      · rw [mine]
        cases followed : b.observers.mirror.follow e m with
        | ok mirror =>
          rw [react_keeper h.toAttends followed]
          exact ih hrest (h.sight_foreign (hs mine) followed)
        | error cause =>
          rw [react_keeper_error h.toAttends followed]
          exact h
      · have passed := h.handle_other nested fair mine e
        exact Outcome.keeps_andThen (Lags keeper foreign pending m start) passed fun _ => ih hrest
    · rw [deliver_of_not_admits admits]
      exact ih hrest h

theorem bears_emitWithin (fair : Observers.Fair ω keeper foreign) (m : Machine) (depth : Nat) :
    Bears (ω := ω) keeper foreign m (Bus.emitWithin m depth) := by
  induction depth with
  | zero => exact fun _ _ _ _ _ h => h
  | succ depth ih =>
    exact fun _ _ e b other h => h.deliver ih fair b.subscriptions fun _ _ _ => other

/-- The event that the machine has to tell reaches the keeper, and its mirror is right from then
on. -/
theorem deliver_own (nested : Bears keeper foreign m notify)
    (fair : Observers.Fair ω keeper foreign)
    (l : Subscriptions) (own : l.own keeper = [⟨keeper, none⟩])
    (h : Lags keeper foreign pending m start b)
    (ended : Bus.deliver notify m pending l b = (.ok (), b')) :
    ∃ before, (∀ x ∈ before, x.Foreign foreign pending m) ∧
      Lags keeper foreign .step m (start ++ before ++ [⟨pending, .of m, m⟩]) b' := by
  induction l generalizing b with
  | nil => cases own
  | cons s rest ih =>
    by_cases mine : s.observer = keeper
    · rw [Subscriptions.own_cons_of_eq mine] at own
      obtain ⟨rfl, gone⟩ := List.cons.inj own
      have told : Lags keeper foreign .step m (b.observers.sightings ++ [⟨pending, .of m, m⟩])
          { b with observers := b.observers.sight pending (.of m) m } :=
        ⟨⟨h.who, h.own⟩, (Mirror.lags_step _ m).mpr rfl, [], (List.append_nil _).symm,
          List.forall_mem_nil _⟩
      have others : ∀ s ∈ rest, s.observer = keeper → foreign pending :=
        fun s hs mine => absurd mine (Subscriptions.ne_of_own_eq_nil gone hs)
      have after := told.deliver nested fair rest others
      rw [deliver_of_admits rfl, react_keeper h.toAttends h.mirror] at ended
      have last : Bus.deliver notify m pending rest
          { b with observers := b.observers.sight pending (.of m) m } = (.ok (), b') := ended
      obtain ⟨before, seen, all⟩ := h.sightings
      rw [last, seen] at after
      exact ⟨before, all, after⟩
    · rw [Subscriptions.own_cons_of_ne mine] at own
      by_cases admits : s.filter.admits pending.kind
      · have passed := h.handle_other nested fair mine pending
        rw [deliver_of_admits admits] at ended
        obtain ⟨b'', met, others⟩ := Outcome.eq_of_andThen_ok ended
        rw [met] at passed
        exact ih own passed others
      · rw [deliver_of_not_admits admits] at ended
        exact ih own h ended

/-- **What the machine tells is seen with the mirror right.** -/
theorem emit_own (fair : Observers.Fair ω keeper foreign)
    (h : Lags keeper foreign pending m start b) :
    ∃ b' before, b.emit m pending = (.ok (), b') ∧ (∀ x ∈ before, x.Foreign foreign pending m) ∧
      Lags keeper foreign .step m (start ++ before ++ [⟨pending, .of m, m⟩]) b' := by
  have ends := fair.ends m pending b (Mirror.sound_of_follow h.mirror) h.toAttends
  cases ended : b.emit m pending with
  | mk result b' =>
    rw [ended] at ends
    obtain rfl : result = .ok () := ends
    obtain ⟨before, all, told⟩ :=
      h.deliver_own (bears_emitWithin fair m _) fair b.subscriptions h.own ended
    exact ⟨b', before, rfl, all, told⟩

end Lags

end Bus

/-- The sightings of all that is told at some moments. Each event of the machine's own is seen with
the mirror right; others may be told before it, and after it. -/
inductive Witnessed (foreign : Event → Prop) : List Moment → List Sighting → Prop
  | nil : Witnessed foreign [] []
  | record {m : Machine} {r : LogRecord} {l : List Moment} {s : List Sighting}
      (rest : Witnessed foreign l s) : Witnessed foreign (⟨m, .record r⟩ :: l) s
  | event {m : Machine} {e : Event} {l : List Moment} {before after s : List Sighting}
      (behind : ∀ x ∈ before, x.Foreign foreign e m)
      (level : ∀ x ∈ after, x.Foreign foreign .step m) (rest : Witnessed foreign l s) :
      Witnessed foreign (⟨m, .event e⟩ :: l) (before ++ ⟨e, .of m, m⟩ :: after ++ s)

namespace Witnessed

variable {foreign : Event → Prop} {l l' : List Moment} {s s' : List Sighting}

theorem append (h : Witnessed foreign l s) (h' : Witnessed foreign l' s') :
    Witnessed foreign (l ++ l') (s ++ s') := by
  induction h with
  | nil => exact h'
  | record rest ih => exact .record ih
  | event behind level rest ih =>
    rw [List.append_assoc]
    exact .event behind level ih

/-- The mirror is right after every event that none but the machine tells. -/
theorem level (h : Witnessed foreign l s) {x : Sighting} (hx : x ∈ s) (own : ¬ foreign x.event) :
    x.mirror = .of x.machine := by
  induction h with
  | nil => cases hx
  | record rest ih => exact ih hx
  | event behind level rest ih =>
    simp only [List.cons_append, List.append_assoc, List.mem_append, List.mem_cons] at hx
    obtain before | rfl | after | later := hx
    · exact absurd (behind x before).event own
    · rfl
    · exact absurd (level x after).event own
    · exact ih later

end Witnessed

namespace Bus.Attends

variable {ω α : Type} [Observers ω] {keeper : ObserverId} {foreign : Event → Prop}
  {b : Bus (Mirrored ω)}

/-- A course that tells all that it writes is played to its end, and the mirror comes along. -/
theorem play (fair : Observers.Fair ω keeper foreign) (result : Except Fault α) {last : Machine}
    {l : List Moment} (h : b.Attends keeper)
    (told : ToldFrom b.observers.mirror l (.of last)) :
    ∃ b' s, Course.playOn result last l b = (result, ⟨last, b'⟩) ∧ b'.Attends keeper ∧
      b'.observers.mirror = .of last ∧ b'.observers.sightings = b.observers.sightings ++ s ∧
      Witnessed foreign l s := by
  induction l generalizing b with
  | nil => exact ⟨b, [], rfl, h, told, (List.append_nil _).symm, .nil⟩
  | cons x rest ih =>
    obtain ⟨m, t⟩ := x
    cases t with
    | record r =>
      have reported : (b.report r).Attends keeper := ⟨h.who, h.own⟩
      obtain ⟨b', s, played, attends, mirror, seen, all⟩ := ih reported told
      exact ⟨b', s, played, attends, mirror, seen, .record all⟩
    | event e =>
      obtain ⟨behind, later⟩ := told
      have pending : b.Lags keeper foreign e m b.observers.sightings :=
        ⟨h, behind, [], (List.append_nil _).symm, List.forall_mem_nil _⟩
      obtain ⟨b₁, before, emitted, foreigners, told⟩ := pending.emit_own fair
      obtain ⟨after, seen₁, level⟩ := told.sightings
      rw [(Mirror.lags_step _ m).mp told.mirror |>.symm] at later
      obtain ⟨b', s, played, attends, mirror, seen, all⟩ := ih told.toAttends later
      refine ⟨b', before ++ ⟨e, .of m, m⟩ :: after ++ s, ?_, attends, mirror, ?_,
        .event foreigners level all⟩
      · rw [Course.playOn, emitted]
        exact played
      · rw [seen, seen₁]
        simp only [List.append_assoc, List.cons_append, List.nil_append]

end Bus.Attends

end Chip8

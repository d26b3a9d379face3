import Chip8.Bus.Event
import Chip8.Text.CodePoint

/-!
# Subscriptions

Who is told about which events, in the order of subscription.

* `Subscriptions.subscribe` moves a subscriber to the end and replaces its filter.
* `Subscriptions.Distinct` says that nobody is listed twice; both operations keep it.
* `Subscriptions.own` is what is listed for one observer, which the others cannot change.
-/

namespace Chip8

inductive ObserverId where
  /-- The standing recorder. -/
  | monitor
  /-- The supervisor of free running. -/
  | supervisor
  /-- Anyone else, by name. -/
  | client (name : Text)
  deriving DecidableEq

/-- The kinds of events that a subscriber asks for; without a list it asks for all. -/
abbrev EventFilter := Option (List EventKind)

def EventFilter.admits (f : EventFilter) (k : EventKind) : Bool :=
  match f with
  | none => true
  | some kinds => kinds.contains k

/-- The filter for a list of kinds; the empty list asks for all. -/
def EventFilter.ofKinds (kinds : List EventKind) : EventFilter :=
  if kinds.isEmpty then none else some kinds

/-- A subscriber and what it asks for. -/
structure Subscription where
  observer : ObserverId
  filter : EventFilter
  deriving DecidableEq

/-- The subscriptions, the oldest first. -/
abbrev Subscriptions := List Subscription

namespace Subscriptions

/-- The subscriptions without those of an observer. -/
def unsubscribe (l : Subscriptions) (who : ObserverId) : Subscriptions :=
  l.filter fun s => s.observer ≠ who

/-- The subscriptions with an observer's at the end, in the place of any before. -/
def subscribe (l : Subscriptions) (who : ObserverId) (filter : EventFilter) : Subscriptions :=
  unsubscribe l who ++ [⟨who, filter⟩]

def observers (l : Subscriptions) : List ObserverId := l.map (·.observer)

/-- What is listed for an observer. -/
def own (l : Subscriptions) (who : ObserverId) : Subscriptions :=
  l.filter fun s => s.observer = who

/-- Nobody is listed twice. -/
def Distinct (l : Subscriptions) : Prop := (observers l).Nodup

theorem mem_observers_unsubscribe {l : Subscriptions} {who a : ObserverId} :
    a ∈ observers (unsubscribe l who) ↔ a ∈ observers l ∧ a ≠ who := by
  simp only [observers, unsubscribe, List.mem_map, List.mem_filter, decide_eq_true_eq]
  constructor
  · rintro ⟨s, ⟨hs, hne⟩, rfl⟩
    exact ⟨⟨s, hs, rfl⟩, hne⟩
  · rintro ⟨⟨s, hs, rfl⟩, hne⟩
    exact ⟨s, ⟨hs, hne⟩, rfl⟩

theorem Distinct.unsubscribe {l : Subscriptions} (h : Distinct l) (who : ObserverId) :
    Distinct (unsubscribe l who) := by
  unfold Distinct observers Subscriptions.unsubscribe at *
  exact (List.filter_sublist.map _).nodup h

theorem Distinct.subscribe {l : Subscriptions} (h : Distinct l) (who : ObserverId)
    (filter : EventFilter) : Distinct (subscribe l who filter) := by
  have hu := h.unsubscribe who
  unfold Distinct at *
  simp only [Subscriptions.subscribe, observers, List.map_append, List.map_cons, List.map_nil]
  rw [List.nodup_append]
  refine ⟨hu, by simp, ?_⟩
  intro a ha b hb
  rw [List.mem_singleton] at hb
  subst hb
  exact (mem_observers_unsubscribe.mp ha).2

section Own

variable {l : Subscriptions} {s : Subscription} {who a : ObserverId}

theorem own_cons_of_eq (h : s.observer = who) (rest : Subscriptions) :
    own (s :: rest) who = s :: own rest who :=
  List.filter_cons_of_pos (decide_eq_true h)

theorem own_cons_of_ne (h : s.observer ≠ who) (rest : Subscriptions) :
    own (s :: rest) who = own rest who :=
  List.filter_cons_of_neg (by simpa using h)

theorem eq_of_own (h : own l who = [s]) {t : Subscription} (ht : t ∈ l) (mine : t.observer = who) :
    t = s := by
  have listed : t ∈ own l who := List.mem_filter.mpr ⟨ht, decide_eq_true mine⟩
  rwa [h, List.mem_singleton] at listed

theorem ne_of_own_eq_nil (h : own l who = []) {t : Subscription} (ht : t ∈ l) :
    t.observer ≠ who := by
  simpa using List.filter_eq_nil_iff.mp h t ht

theorem own_unsubscribe_self (l : Subscriptions) (who : ObserverId) :
    own (unsubscribe l who) who = [] := by
  simp [own, unsubscribe, List.filter_filter]

theorem own_unsubscribe (other : a ≠ who) (l : Subscriptions) :
    own (unsubscribe l a) who = own l who := by
  simp only [own, unsubscribe, List.filter_filter]
  refine List.filter_congr fun t _ => ?_
  by_cases mine : t.observer = who
  · simp [mine, other.symm]
  · simp [mine]

theorem own_subscribe_self (l : Subscriptions) (who : ObserverId) (filter : EventFilter) :
    own (subscribe l who filter) who = [⟨who, filter⟩] := by
  have before := own_unsubscribe_self l who
  rw [own] at before ⊢
  rw [subscribe, List.filter_append, before]
  simp

theorem own_subscribe (other : a ≠ who) (l : Subscriptions) (filter : EventFilter) :
    own (subscribe l a filter) who = own l who := by
  have kept := own_unsubscribe other l
  simp only [own] at kept ⊢
  rw [subscribe, List.filter_append, kept]
  simp [other]

end Own

end Subscriptions

end Chip8

import Chip8.Proofs.Parts

/-!
# What instructions never tell

Steps are announced, and moves of PC told, by the clock alone.

* `Action.Silent`: an event that is never told on an action's course.
* `Event.OfClock`: the announcement of a step and the event of PC. No store tells either
  (`stores_silent`), so no instruction does (`silent_execute`).
-/

namespace Chip8

/-- The announcement of a step, or the event of PC. -/
def Event.OfClock (e : Event) : Prop := e = .step ∨ e = .register .pc

theorem Event.OfClock.ne {e told : Event} (h : e.OfClock) (step : told ≠ .step)
    (pc : told ≠ .register .pc) : told ≠ e := by
  rcases h with rfl | rfl
  · exact step
  · exact pc

namespace Action

variable {α β : Type} {e : Event}

/-- The action never tells the event. -/
def Silent (e : Event) (a : Action α) : Prop :=
  ∀ m, ∀ x ∈ (a.course m).moments, x.telling ≠ .event e

theorem Silent.pure (x : α) : (Pure.pure x : Action α).Silent e :=
  fun _ => List.forall_mem_nil _

theorem Silent.refuse (cause : Fault) : (System.refuse cause : Action α).Silent e :=
  fun _ => List.forall_mem_nil _

theorem Silent.look : System.look.Silent e := fun _ => List.forall_mem_nil _

theorem Silent.change (f : Machine → Machine) : (System.change f).Silent e :=
  fun _ => List.forall_mem_nil _

theorem Silent.notify {told : Event} (other : told ≠ e) : (System.notify told).Silent e :=
  fun _ => List.forall_mem_singleton.mpr fun same => other (Telling.event.inj same)

theorem Silent.report (r : LogRecord) : (System.report r).Silent e :=
  fun _ => List.forall_mem_singleton.mpr nofun

theorem Silent.bind {a : Action α} {f : α → Action β} (ha : a.Silent e)
    (hf : ∀ x, (f x).Silent e) : (a >>= f).Silent e := by
  intro m
  have first := ha m
  rw [course_bind]
  generalize a.course m = c at first ⊢
  obtain ⟨l, result, m'⟩ := c
  cases result with
  | ok x =>
    intro y hy
    rcases List.mem_append.mp hy with hy | hy
    · exact first y hy
    · exact hf x m' y hy
  | error cause => exact first

/-- A write tells its own event only. -/
theorem Silent.write {f : Machine → Machine} {told : Event} (other : told ≠ e) :
    (do System.change f; System.notify told : Action Unit).Silent e :=
  .bind (.change f) fun _ => .notify other

theorem Silent.not_mem_events {a : Action α} (h : a.Silent e) (m : Machine) :
    e ∉ (a.course m).events := by
  intro he
  obtain ⟨x, hx, told⟩ := List.mem_filterMap.mp he
  have other := h m x hx
  cases ht : x.telling with
  | event e' =>
    rw [ht] at told other
    exact other (congrArg Telling.event (Option.some.inj told))
  | record r =>
    rw [ht] at told
    cases told

end Action

namespace System

open Chip8.Action

variable {e : Event}

theorem stores_silent (h : e.OfClock) : OfStores fun _ a => a.Silent e where
  pure := .pure
  look := .look
  bind := .bind
  refuse := .refuse
  report := .report
  cleared := .notify (h.ne nofun nofun)
  drawn _ _ _ := .notify (h.ne nofun nofun)
  setVAs _ _ := .write (h.ne nofun nofun)
  setI _ := .write (h.ne nofun nofun)
  setDt _ := .write (h.ne nofun nofun)
  setSt _ := .write (h.ne nofun nofun)
  setBytesAs _ _ _ := by
    unfold setBytesAs
    split
    · exact .write (h.ne nofun nofun)
    · exact .refuse _
  drawRows x y r rows hit := by
    induction rows generalizing r hit with
    | zero => exact .pure _
    | succ rows ih =>
      exact .bind .look fun _ => .bind (.change _) fun _ =>
        .bind (.notify (h.ne nofun nofun)) fun _ => ih _ _
  random := .bind .look fun _ => .bind (.change _) fun _ => .pure _

/-- **No instruction announces a step or tells of PC.** -/
theorem silent_execute (h : e.OfClock) (d : Decoded) : (execute d).Silent e := by
  have setSp (x : Int) : (setSp x).Silent e := .write (h.ne nofun nofun)
  exact (stores_silent h).writers.execute d ((stores_silent h).pushStack setSp)
    ((stores_silent h).popStack setSp)

end System

end Chip8

import Chip8.Proofs.Noninterference
import Chip8.Proofs.Steps
import Chip8.Snapshot.Basic

/-!
# What a reset leaves

After a reset nothing is left of the past but the pending key, the generator and the timers, and so
no request can tell the computer from a new one that was given these.

* `yields_reset`: a reset that comes to its end leads to the machine at power-on, from any machine;
  `reset_ok`: only an observer can stop it.
* `Veil.bare` hides nothing: machines alike under it are equal, and every action is alike to itself.
* An `Errand` is a request, any activity on the machine, or a snapshot. `reset_erases`: the replies
  to errands are the same after a reset as from a new computer, for good.
-/

namespace Chip8

open Chip8.Action

namespace Memory

theorem store_zeros (memory : Memory) :
    memory.store 0 (List.replicate memorySize 0) = Vector.replicate memorySize 0 := by
  refine Vector.ext fun a ha => ?_
  rw [getElem_store, dif_pos ⟨Nat.zero_le a, by rw [List.length_replicate]; omega⟩,
    List.getElem_replicate, Vector.getElem_replicate]

theorem store_zeros_at (start length : Nat) :
    store (Vector.replicate memorySize 0) start (List.replicate length 0) =
      Vector.replicate memorySize 0 := by
  refine Vector.ext fun a ha => ?_
  rw [getElem_store]
  split
  · rw [List.getElem_replicate, Vector.getElem_replicate]
  · rfl

end Memory

namespace System

theorem yields_fillBytes (start length : Nat) (fits : start + length ≤ memorySize) (b : UInt8)
    (m : Machine) : (fillBytes start b length).Yields m ()
      { m with memory := m.memory.store start (List.replicate length b) } := by
  rw [fillBytes_of_fits fits]
  refine ⟨_, (course_setBytesAs _ _ _ m).trans (if_pos ?_)⟩
  simp only [WholeNumber.value, List.length_replicate, Int.toNat_natCast]
  exact ⟨Int.natCast_nonneg _, trivial, fits⟩

theorem yields_clearDisplay {m : Machine} (dark : m.memory = Vector.replicate memorySize 0) :
    clearDisplay.Yields m () m := by
  have cleared := yields_fillBytes displayStart displaySize (by decide) 0 m
  rw [dark, Memory.store_zeros_at, ← dark] at cleared
  exact cleared.bind ⟨_, course_notify _ m⟩

/-- The V registers with some of them cleared. -/
def cleared (v : Vector UInt8 registerCount) : List VIndex → Vector UInt8 registerCount
  | [] => v
  | k :: rest => cleared (v.set k 0 k.isLt) rest

theorem get_cleared {v : Vector UInt8 registerCount} {ks : List VIndex} {j : VIndex}
    (h : j ∈ ks ∨ v.get j = 0) : (cleared v ks).get j = 0 := by
  induction ks generalizing v with
  | nil => exact h.resolve_left List.not_mem_nil
  | cons k rest ih =>
    apply ih
    by_cases now : j = k
    · subst now
      exact .inr (Vector.getElem_set_self j.isLt)
    · have apart : k.val ≠ j.val := fun e => now (Fin.ext e.symm)
      rcases h with later | zero
      · exact .inl ((List.mem_cons.mp later).resolve_left now)
      · exact .inr ((Vector.getElem_set_ne k.isLt j.isLt apart).trans zero)

theorem yields_clearRegisters (ks : List VIndex) (m : Machine) :
    (clearRegisters ks).Yields m () { m with v := cleared m.v ks } := by
  induction ks generalizing m with
  | nil => exact ⟨_, course_pure _ m⟩
  | cons k rest ih => exact .bind ⟨_, course_setV k 0 m⟩ (ih _)

theorem cleared_all (v : Vector UInt8 registerCount) :
    cleared v (List.finRange registerCount) = Vector.replicate registerCount 0 := by
  refine Vector.ext fun k hk => ?_
  have zero := get_cleared (v := v) (.inl (List.mem_finRange ⟨k, hk⟩))
  exact zero.trans (Vector.getElem_replicate hk).symm

/-- **A reset leads to the machine at power-on**, with the key and the generator as they are. -/
theorem yields_reset (m : Machine) :
    reset.Yields m () { Machine.powerOn m.generator with key := m.key } := by
  have wiped := yields_fillBytes 0 memorySize (by decide) 0 m
  rw [Memory.store_zeros] at wiped
  refine wiped.bind ((yields_clearDisplay rfl).bind ?_)
  refine .bind ⟨_, course_setBytes (by decide) _⟩ (.bind (yields_clearRegisters _ _) ?_)
  rw [cleared_all]
  refine .bind ⟨_, course_setI _ _⟩ (.bind ⟨_, course_setSp _ _⟩ (.bind ⟨_, course_setPc _ _⟩ ?_))
  refine .bind ⟨_, course_setDt _ _⟩ (.bind ⟨_, course_setSt _ _⟩ ?_)
  exact .bind ⟨_, course_change _ _⟩ ⟨_, course_report _ _⟩

end System

/-! ## Nothing hidden -/

/-- The veil over nothing. -/
def Veil.bare : Veil := ⟨false, false, false, false⟩

theorem Veil.admits_bare (op : Operation) : bare.Admits op := by
  cases op <;> trivial

theorem Machine.Alike.eq_of_bare {m m' : Machine} (h : m.Alike .bare m') : m = m' := by
  obtain ⟨memory, v, pc, sp, dt, cycle, -, i, st, key, generator⟩ := h
  cases m
  cases m'
  simp only [Veil.bare, forall_const] at i st key generator
  simp_all only

theorem Machine.Alike.of_eq {d : Veil} {m m' : Machine} (h : m = m') : m.Alike d m' :=
  h ▸ .refl d m

theorem MomentsAlike.refl (d : Veil) (l : List Moment) : MomentsAlike d l l := by
  induction l with
  | nil => exact .nil
  | cons x rest ih => exact .both x.telling (.refl d x.machine) ih

theorem Action.alike_bare {α : Type} (a : Action α) : Alike .bare a a := by
  intro m m' h
  obtain rfl := h.eq_of_bare
  exact ⟨.refl _ _, rfl, .refl _ _⟩

/-! ## Errands -/

/-- What can be asked of a computer, or of its machine at any time. -/
inductive Errand (α : Type) where
  | control (x : Control)
  /-- An activity on the machine, such as a write to a register. -/
  | act (a : Action α)
  | snapshot

inductive Errand.Reply (α : Type) where
  | answer (x : Answer)
  | result (x : α)
  | snapshot (s : Snapshot)

namespace Computer

variable {ω α : Type}

/-- The computer with the pending key, the generator and the timers of another one. -/
def equippedLike (n c : Computer ω) : Computer ω where
  system := ⟨{ n.system.machine with
    key := c.system.machine.key, generator := c.system.machine.generator }, n.system.bus⟩
  settings := n.settings
  timers := c.timers
  executed := n.executed

theorem equippedLike_of_built {settings : Settings} {generator : Twister} {bus : Bus ω}
    {n : Computer ω} (built : ofSettings settings ⟨.powerOn generator, bus⟩ = .ok n)
    (c : Computer ω) :
    n.equippedLike c =
      ⟨⟨{ Machine.powerOn c.system.machine.generator with key := c.system.machine.key }, bus⟩,
        settings, c.timers, 0⟩ := by
  obtain ⟨g, t, -, -, rfl⟩ := ofSettings_eq_ok built
  simp only [equippedLike, Machine.powerOn]

variable [Observers ω]

/-- The task of an errand. -/
def errand : Errand α → Task ω (Errand.Reply α)
  | .control x => return .answer (← task x)
  | .act a => return .result (← onSystem a)
  | .snapshot => return .snapshot (← get).system.machine.snapshot

/-- The replies to errands one after another, faults included, each with the computer then. -/
def replies (c : Computer ω) : List (Errand α) → List (Except Fault (Errand.Reply α) × Computer ω)
  | [] => []
  | x :: rest => perform (errand x) c :: replies (perform (errand x) c).2 rest

variable {B : Bus ω → Bus ω → Prop} {counted : Prop}

theorem matches_errand (onlookers : Onlookers .bare B) (x : Errand α) :
    Matches (Alike .bare B counted) (errand x : Task ω (Errand.Reply α)) := by
  cases x with
  | control x => exact .bind (matches_task onlookers Veil.admits_bare x) fun _ => .pure _
  | act a => exact .bind (matches_onSystem onlookers a.alike_bare) fun _ => .pure _
  | snapshot =>
    intro c c' h
    have same := h.system.machine.eq_of_bare
    exact ⟨congrArg (fun m : Machine => Except.ok (Errand.Reply.snapshot m.snapshot)) same, h⟩

theorem alike_replies (onlookers : Onlookers .bare B) (xs : List (Errand α)) {c c' : Computer ω}
    (h : c.Alike .bare B counted c') :
    List.Forall₂ (fun r r' => r.1 = r'.1 ∧ r.2.Alike .bare B counted r'.2) (c.replies xs)
      (c'.replies xs) := by
  induction xs generalizing c c' with
  | nil => exact .nil
  | cons x rest ih =>
    have met := matches_errand onlookers x c c' h
    exact .cons met (ih met.2)

theorem perform_reset (c : Computer ω) :
    perform reset c =
      match System.run System.reset c.system with
      | (.ok (), s) => (.ok (), { c with system := s, executed := 0 })
      | (.error cause, s) => (.error cause, { c with system := s }) := by
  rw [reset, perform_bind, perform_onSystem]
  cases h : System.run System.reset c.system with
  | mk result s => cases result <;> rfl

theorem reset_ok (calm : Observers.Calm ω) (c : Computer ω) : (perform reset c).1 = .ok () := by
  have result := (System.run_of_yields calm (System.yields_reset c.system.machine)).1
  rw [perform_reset]
  generalize System.run System.reset c.system = outcome at result
  obtain ⟨_, s⟩ := outcome
  obtain rfl := result
  rfl

/-- Where a reset leads that comes to its end. -/
theorem reset_leads {c : Computer ω} (done : (perform reset c).1 = .ok ()) :
    (perform reset c).2.system.machine =
        { Machine.powerOn c.system.machine.generator with key := c.system.machine.key }
      ∧ (perform reset c).2.timers = c.timers ∧ (perform reset c).2.executed = 0 := by
  rw [perform_reset] at done ⊢
  cases ran : System.run System.reset c.system with
  | mk result s =>
    rw [ran] at done
    cases result with
    | error cause => cases done
    | ok => exact ⟨((System.yields_of_run ran).unique (System.yields_reset _)).2, rfl, rfl⟩

/-- **A reset erases the past.** A computer that came to the end of a reset is at the state of a
new computer with the same key, generator and timers. From then on both give the same replies to
any errands and go through the same states. Whatever relation `B` of what the observers know is
kept by them at equal machines, it holds after every errand if it holds after the reset. Observers
see the machine and cannot write it. -/
theorem reset_erases (onlookers : Onlookers .bare B) {settings : Settings} {generator : Twister}
    {bus : Bus ω} {n : Computer ω} (built : ofSettings settings ⟨.powerOn generator, bus⟩ = .ok n)
    (c : Computer ω) (xs : List (Errand α)) :
    let outcome := perform reset c
    let new := n.equippedLike c
    (Observers.Calm ω → outcome.1 = .ok ())
      ∧ (outcome.1 = .ok () → B outcome.2.system.bus bus →
        outcome.2.system.machine = new.system.machine ∧ outcome.2.executed = new.executed
          ∧ List.Forall₂ (fun r r' => r.1 = r'.1 ∧ r.2.system.machine = r'.2.system.machine
              ∧ r.2.executed = r'.2.executed ∧ B r.2.system.bus r'.2.system.bus)
            (outcome.2.replies xs) (new.replies xs)) := by
  have leads := reset_leads (c := c)
  refine ⟨fun calm => reset_ok calm c, ?_⟩
  generalize perform reset c = outcome at leads ⊢
  intro done buses
  obtain ⟨machine, timers, executed⟩ := leads done
  have twins : outcome.2.Alike .bare B True (n.equippedLike c) := by
    rw [equippedLike_of_built built]
    exact ⟨⟨.of_eq machine, buses⟩, timers, fun _ => executed⟩
  have same {c c' : Computer ω} (h : c.Alike .bare B True c') :
      c.system.machine = c'.system.machine ∧ c.executed = c'.executed ∧
        B c.system.bus c'.system.bus :=
    ⟨h.system.machine.eq_of_bare, h.executed trivial, h.system.bus⟩
  obtain ⟨machine, executed, -⟩ := same twins
  refine ⟨machine, executed, (alike_replies onlookers xs twins).imp ?_⟩
  exact fun r r' ⟨reply, alike⟩ => ⟨reply, same alike⟩

end Computer

/-! ## The same is heard -/

namespace Transcript

/-- The same entries were made after two pasts, by the same subscribers. -/
structure Since (past past' : List (ObserverId × Event)) (b b' : Bus Transcript) : Prop where
  subscriptions : b.subscriptions = b'.subscriptions
  heard : ∃ since, b.observers.entries = since ++ past ∧ b'.observers.entries = since ++ past'

/-- Those who are told about an event, the last first. -/
def heard (e : Event) (l : Subscriptions) : List (ObserverId × Event) :=
  ((l.filter (·.filter.admits e.kind)).map fun s => (s.observer, e)).reverse

theorem emit_eq (m : Machine) (e : Event) (b : Bus Transcript) :
    b.emit m e = (.ok (), { b with
      observers := ⟨heard e b.subscriptions ++ b.observers.entries⟩ }) := by
  suffices told : ∀ (l : Subscriptions) (b : Bus Transcript),
      Bus.deliver (Bus.emitWithin m 0) m e l b =
        (.ok (), { b with observers := ⟨heard e l ++ b.observers.entries⟩ }) from
    told b.subscriptions b
  intro l
  induction l with
  | nil => exact fun b => rfl
  | cons s rest ih =>
    intro b
    rw [Bus.deliver]
    by_cases admits : s.filter.admits e.kind
    · simp only [admits, if_true, Observers.react, Bus.meet, ih, heard, List.filter_cons_of_pos,
        List.map_cons, List.reverse_cons, List.append_assoc, List.cons_append, List.nil_append]
    · have passed : heard e (s :: rest) = heard e rest := by simp [heard, admits]
      simp only [if_neg admits, ih, passed]

/-- Subscribers who write down all that they are told cannot tell equal machines apart. -/
theorem onlookers_since (past past' : List (ObserverId × Event)) :
    Onlookers .bare (Since past past') where
  report _ h := ⟨h.subscriptions, h.heard⟩
  emit {b} _ _ _ e _ h := by
    obtain ⟨since, new, new'⟩ := h.heard
    rw [emit_eq, emit_eq]
    refine ⟨rfl, h.subscriptions, heard e b.subscriptions ++ since, ?_, ?_⟩
    · rw [new, List.append_assoc]
    · rw [new', ← h.subscriptions, List.append_assoc]
  left _ hidden := nomatch hidden
  right _ hidden := nomatch hidden

end Transcript

namespace Computer

/-- A computer with memory full of calls, SP past the end of the stack, a cycle outside of the
period, a count, and a key that is held. -/
def worn : Computer Transcript where
  system := ⟨{ Machine.powerOn .unseeded with
    memory := Vector.replicate memorySize 0x22, v := Vector.replicate registerCount 9,
    i := 0xFFFF, pc := 0x345, sp := 200, dt := 3, st := 4, key := some ⟨6, by decide⟩, cycle := 7 },
    ⟨[⟨.monitor, none⟩], ⟨[(.monitor, .step)]⟩, []⟩⟩
  settings := .standard
  timers := ⟨3, false, by decide⟩
  executed := 12

/-- Reset, the worn computer does and tells what a new one does and tells. -/
theorem reset_erases_worn :
    let new := fresh ⟨[⟨.monitor, none⟩], ⟨[]⟩, []⟩
    let xs : List (Errand Unit) :=
      [.act (System.setSp 33), .control .step, .snapshot, .control (.loadProgram [0x22, 0x22]),
        .control (.run 2), .control .releaseKey, .control .step]
    (perform reset worn).1 = .ok () ∧ List.Forall₂ (fun r r' => r.1 = r'.1
        ∧ r.2.system.machine = r'.2.system.machine ∧ r.2.executed = r'.2.executed
        ∧ Transcript.Since (perform reset worn).2.system.bus.observers.entries []
          r.2.system.bus r'.2.system.bus)
      ((perform reset worn).2.replies xs) ((new.equippedLike worn).replies xs) := by
  intro new xs
  have built : ofSettings .standard ⟨.powerOn .unseeded, new.system.bus⟩ = .ok new := rfl
  have erased (past : List (ObserverId × Event)) :=
    reset_erases (Transcript.onlookers_since past []) built worn xs
  have done : (perform reset worn).1 = .ok () := (erased []).1 calm_transcript
  have subscribed : (perform reset worn).2.system.bus.subscriptions = [⟨.monitor, none⟩] := by
    decide +kernel
  generalize perform reset worn = outcome at erased done subscribed ⊢
  have buses : Transcript.Since outcome.2.system.bus.observers.entries [] outcome.2.system.bus
      new.system.bus := ⟨subscribed, [], rfl, rfl⟩
  exact ⟨done, ((erased _).2 done buses).2.2⟩

end Computer

end Chip8

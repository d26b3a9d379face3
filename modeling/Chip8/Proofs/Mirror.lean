import Chip8.Bench.Cast
import Chip8.Proofs.HostInput
import Chip8.Proofs.Keeper
import Chip8.Proofs.Reset

/-!
# A mirror does not fall out of sync

Whatever is done to a computer, who keeps a mirror of its machine has it right after each event that
the machine tells, and after each deed.

* `Deed`: what can be done to a computer, and the action that it is (`Deed.action`). All of these
  tell what they write (`tells_action`), so that `Computer.tellings` lists what the machine has to
  tell, and nothing is missing from it.
* `mirror_inSync`: the keeper's sightings are those of the machine's tellings, with the foreign
  events between them, and at the end the mirror is the machine's.
* Neither holds for an event that another observer tells, nor once another observer has unsubscribed
  the keeper (`mirror_misled`).
-/

namespace Chip8

/-- What can be done to a machine by itself. -/
inductive Mutation where
  | setMemory (data : Data) (offset : WholeNumber) (length : Option WholeNumber)
  | writeBlock (address : Int) (ns : List Int)
  | setV (index : WholeNumber) (value : Int)
  | setI (address : Int)
  | setPc (address : Int)
  | setSp (offset : Int)
  | setDt (value : Int)
  | setSt (value : Int)
  | regDump (n : Int)
  | regLoad (n : Int)
  | pushStack (address : Int)
  | popStack
  | clearDisplay
  | loadProgram (image : List UInt8)
  | reset
  | execute (word : Int)

/-- The mutation as an action. -/
def Mutation.action : Mutation → Action Unit
  | .setMemory data offset length => System.setMemory data offset length
  | .writeBlock address ns => System.writeBlock address ns
  | .setV index value => System.setVAt index value
  | .setI address => System.setI address
  | .setPc address => System.setPc address
  | .setSp offset => System.setSp offset
  | .setDt value => System.setDt value
  | .setSt value => System.setSt value
  | .regDump n => System.regDump n
  | .regLoad n => System.regLoad n
  | .pushStack address => System.pushStack address
  | .popStack => do let _ ← System.popStack
  | .clearDisplay => System.clearDisplay
  | .loadProgram image => System.loadProgram image
  | .reset => System.reset
  | .execute word => do let _ ← System.execute (.ofWord word)

/-- What can be done to a computer: a mutation of its machine, or a request. Observers other than
the keeper may come and go. -/
inductive Deed (keeper : ObserverId) where
  | mutate (x : Mutation)
  | obey (x : Control)
  | subscribe (who : ObserverId) (filter : EventFilter) (other : who ≠ keeper)
  | unsubscribe (who : ObserverId) (other : who ≠ keeper)

theorem tells_action (x : Mutation) : x.action.Tells := by
  cases x with
  | setMemory => exact System.stores_tell.setMemory _ _ _
  | writeBlock => exact System.stores_tell.writeBlock _ _
  | setV => exact System.stores_tell.setVAt _ _
  | setI => exact System.tells_setI _
  | setPc => exact System.tells_setPc _
  | setSp => exact System.tells_setSp _
  | setDt => exact System.tells_setDt _
  | setSt => exact System.tells_setSt _
  | regDump => exact System.stores_tell.regDump _
  | regLoad => exact System.stores_tell.regLoad _
  | pushStack => exact System.tells_pushStack _
  | popStack => exact .bind System.tells_popStack fun _ => .pure _
  | clearDisplay => exact System.stores_tell.clearDisplay
  | loadProgram => exact System.tells_loadProgram _
  | reset => exact System.tells_reset
  | execute => exact .bind (System.tells_execute _) fun _ => .pure _

theorem tells_instruction : Computer.instruction.Tells :=
  System.stores_tell.toCompositional.instruction System.tells_step System.tells_execute
    System.tells_setPc

theorem tells_advance (t : Timers) : t.advance.Tells :=
  Timers.advance_of_parts System.stores_tell.toCompositional System.tells_setDt System.tells_setSt
    (.change fun _ => rfl)

theorem tells_press (code : Option KeyCode) : (System.press code).Tells :=
  System.stores_tell.press (fun _ => .change fun _ => rfl) code

theorem tells_wholeStep (t : Timers) : (Computer.wholeStep t).Tells :=
  .bind tells_instruction fun _ => .bind (tells_advance t) fun _ => .pure _

/-- As many steps as there are to take. -/
def Computer.wholeSteps (t : Timers) : Nat → Action Unit
  | 0 => pure ()
  | n + 1 => do
    let _ ← wholeStep t
    wholeSteps t n

/-- The request as an action. -/
def Control.action (t : Timers) : Control → Action Unit
  | .loadProgram image => System.loadProgram image
  | .step => do let _ ← Computer.wholeStep t
  | .run count => Computer.wholeSteps t count.toNat
  | .pressKey code => System.press code
  | .releaseKey => System.release
  | .reset => System.reset

/-- The deed as an action. -/
def Deed.action {keeper : ObserverId} (t : Timers) : Deed keeper → Action Unit
  | .mutate x => x.action
  | .obey x => x.action t
  | .subscribe _ _ _ | .unsubscribe _ _ => pure ()

theorem tells_wholeSteps (t : Timers) (n : Nat) : (Computer.wholeSteps t n).Tells := by
  induction n with
  | zero => exact .pure ()
  | succ n ih => exact .bind (tells_wholeStep t) fun _ => ih

theorem tells_request (t : Timers) (x : Control) : (x.action t).Tells := by
  cases x with
  | loadProgram image => exact System.tells_loadProgram image
  | step => exact .bind (tells_wholeStep t) fun _ => .pure _
  | run n => exact tells_wholeSteps t n.toNat
  | pressKey code => exact tells_press code
  | releaseKey => exact .change fun _ => rfl
  | reset => exact System.tells_reset

theorem tells_deed {keeper : ObserverId} (t : Timers) (x : Deed keeper) : (x.action t).Tells := by
  cases x with
  | mutate x => exact tells_action x
  | obey x => exact tells_request t x
  | subscribe | unsubscribe => exact .pure ()

namespace Computer

section Actions

variable {ω : Type} (c : Computer ω)

/-- What follows a task and leaves the system alone is no matter to the system. -/
theorem system_andThen {α β : Type} {t : Task ω α} {f : α → Task ω β}
    (still : ∀ x c', (perform (f x) c').2.system = c'.system) :
    (perform (t >>= f) c).2.system = (perform t c).2.system := by
  rw [perform_bind]
  cases perform t c with
  | mk result c' =>
    cases result with
    | error cause => rfl
    | ok x => exact still x c'

variable [Observers ω]

theorem timers_step : (perform step c).2.timers = c.timers := by
  rw [perform_step]
  split
  · rfl
  · split <;> rfl

theorem system_steps (n : Nat) :
    (perform (steps n) c).2.system = (System.run (wholeSteps c.timers n) c.system).2 := by
  induction n generalizing c with
  | zero => rfl
  | succ n ih =>
    have timers := c.timers_step
    rw [wholeSteps, System.run_bind, perform_step_eq_run, steps, perform_bind]
    generalize perform step c = outcome at timers ⊢
    obtain ⟨result, c'⟩ := outcome
    cases result with
    | error cause => rfl
    | ok d =>
      dsimp only at timers ⊢
      rw [ih c', timers]

/-- What a request does to the system is its action. -/
theorem system_obey (x : Control) :
    (c.obey x).2.system = (System.run (x.action c.timers) c.system).2 := by
  cases x with
  | loadProgram image => exact c.system_andThen fun _ _ => rfl
  | step =>
    refine (c.system_andThen fun _ _ => rfl).trans ?_
    rw [Control.action, System.run_bind, perform_step_eq_run]
    obtain ⟨result, c'⟩ := perform step c
    cases result <;> rfl
  | run n =>
    refine (c.system_andThen fun _ _ => rfl).trans ?_
    exact (c.system_andThen fun _ _ => rfl).trans (c.system_steps n.toNat)
  | pressKey code => exact c.system_andThen fun _ _ => rfl
  | releaseKey => exact c.system_andThen fun _ _ => rfl
  | reset =>
    have asked : (c.obey .reset).2.system = (perform reset c).2.system := by
      rw [obey, task]
      exact c.system_andThen fun _ _ => rfl
    rw [asked, perform_reset, Control.action]
    generalize System.run System.reset c.system = outcome
    obtain ⟨result, s⟩ := outcome
    cases result <;> rfl

end Actions

variable {ω : Type} {keeper : ObserverId}

/-- The computer with one more observer, who keeps a mirror of its machine. -/
def mirrored (keeper : ObserverId) (c : Computer ω) : Computer (Mirrored ω) where
  system :=
    { machine := c.system.machine
      bus := Bus.subscribe ⟨c.system.bus.subscriptions,
        ⟨c.system.bus.observers, keeper, .of c.system.machine, []⟩, c.system.bus.log⟩ keeper none }
  settings := c.settings
  timers := c.timers
  executed := c.executed

variable [Observers ω]

/-- A deed done, and the computer after it, also where it ended with a fault. -/
def carryOut (c : Computer ω) : Deed keeper → Computer ω
  | .mutate x => (perform (onSystem x.action) c).2
  | .obey x => (c.obey x).2
  | .subscribe who filter _ => c.changeBus (·.subscribe who filter)
  | .unsubscribe who _ => c.changeBus (·.unsubscribe who)

/-- What the machine has to tell while deeds are done. -/
def tellings (c : Computer ω) : List (Deed keeper) → List Moment
  | [] => []
  | x :: rest =>
    ((x.action c.timers).course c.system.machine).moments ++ (c.carryOut x).tellings rest

end Computer

/-- The keeper attends to the system's events, and has its machine. -/
structure System.InSync {ω : Type} (keeper : ObserverId) (s : System (Mirrored ω)) : Prop where
  attends : s.bus.Attends keeper
  mirror : s.bus.observers.mirror = .of s.machine

/-- The keeper has kept up with what was to be told: it saw that, and is in sync at the end. -/
structure KeepsUp {ω : Type} (keeper : ObserverId) (foreign : Event → Prop) (l : List Moment)
    (s s' : System (Mirrored ω)) : Prop where
  after : s'.InSync keeper
  seen : ∃ sightings, s'.bus.observers.sightings = s.bus.observers.sightings ++ sightings ∧
    Witnessed foreign l sightings

namespace Computer

variable {ω : Type} [Observers ω] {keeper : ObserverId} {foreign : Event → Prop}

theorem keepsUp_run (fair : Observers.Fair ω keeper foreign) {α : Type} {a : Action α}
    (told : a.Tells) {s : System (Mirrored ω)} (h : s.InSync keeper) :
    KeepsUp keeper foreign (a.course s.machine).moments s (System.run a s).2 := by
  have course := told.told s.machine
  rw [Course.Told, ← h.mirror] at course
  obtain ⟨b', sightings, played, attends, mirror, seen, all⟩ :=
    h.attends.play fair (a.course s.machine).result course
  rw [System.run_eq_play, Course.play, played]
  exact ⟨⟨attends, mirror⟩, sightings, seen, all⟩

theorem keepsUp_carryOut (fair : Observers.Fair ω keeper foreign) (x : Deed keeper)
    {c : Computer (Mirrored ω)} (h : c.system.InSync keeper) :
    KeepsUp keeper foreign ((x.action c.timers).course c.system.machine).moments c.system
      (c.carryOut x).system := by
  have told := tells_deed c.timers x
  cases x with
  | mutate x => exact keepsUp_run fair told h
  | obey x =>
    rw [carryOut, system_obey]
    exact keepsUp_run fair told h
  | subscribe who filter other =>
    refine ⟨⟨h.attends.subscribe fun mine => ?_, h.mirror⟩, [], (List.append_nil _).symm, .nil⟩
    exact absurd mine other
  | unsubscribe who other =>
    exact ⟨⟨h.attends.unsubscribe other, h.mirror⟩, [], (List.append_nil _).symm, .nil⟩

theorem keepsUp_deeds (fair : Observers.Fair ω keeper foreign) (deeds : List (Deed keeper))
    {c : Computer (Mirrored ω)} (h : c.system.InSync keeper) :
    KeepsUp keeper foreign (c.tellings deeds) c.system (deeds.foldl carryOut c).system := by
  induction deeds generalizing c with
  | nil => exact ⟨h, [], (List.append_nil _).symm, .nil⟩
  | cons x rest ih =>
    obtain ⟨after, sightings, seen, all⟩ := keepsUp_carryOut fair x h
    obtain ⟨last, sightings', seen', all'⟩ := ih after
    refine ⟨last, sightings ++ sightings', ?_, all.append all'⟩
    rw [List.foldl_cons, seen', seen, List.append_assoc]

/-- **A mirror does not fall out of sync.** Each event that the machine tells is seen with the
mirror right, and so is each event of a kind that nobody else tells; the mirror is right after all
deeds. -/
theorem mirror_inSync (fair : Observers.Fair ω keeper foreign) (c : Computer ω)
    (deeds : List (Deed keeper)) :
    let start := c.mirrored keeper
    let s := (deeds.foldl carryOut start).system
    Witnessed foreign (start.tellings deeds) s.bus.observers.sightings
      ∧ (∀ x ∈ s.bus.observers.sightings, ¬ foreign x.event → x.mirror = .of x.machine)
      ∧ s.bus.observers.mirror = .of s.machine := by
  have start : (c.mirrored keeper).system.InSync keeper :=
    ⟨⟨rfl, Subscriptions.own_subscribe_self _ _ _⟩, rfl⟩
  obtain ⟨after, sightings, seen, all⟩ := keepsUp_deeds fair deeds start
  have seen : (deeds.foldl carryOut (c.mirrored keeper)).system.bus.observers.sightings =
      sightings := seen
  refine ⟨seen ▸ all, fun x hx own => ?_, after.mirror⟩
  exact all.level (seen ▸ hx) own

end Computer

/-- One who announces a step that is none whenever a register has changed. -/
inductive Heckler where
  | heckler

instance : Observers Heckler where
  react _ e _ s :=
    match e with
    | .register _ => (s, [.notify .step])
    | .memory _ _ | .cleared | .drawn _ _ _ | .step => (s, [])
  nesting := 1

namespace Heckler

variable {notify : Event → Bus (Mirrored Heckler) → Bus.Outcome (Mirrored Heckler)} {e : Event}

theorem meet_ok (nested : e ≠ .step → ∀ b, (notify .step b).1 = .ok ()) (sound : e.Sound)
    (who : ObserverId) (m : Machine) (memory : Mirrored Heckler) (b : Bus (Mirrored Heckler)) :
    (Bus.meet notify (Observers.react who e m memory).2 b).1 = .ok () := by
  by_cases keeper : who = memory.who
  · obtain ⟨mirror, followed⟩ := Mirror.exists_follow sound memory.mirror m
    simp only [Observers.react, if_pos keeper, followed, Bus.meet]
  · simp only [Observers.react, if_neg keeper]
    cases e with
    | memory | cleared | drawn | step => rfl
    | register name =>
      have other : Event.register name ≠ .step := by
        intro same
        cases same
      change (Bus.meet notify [.notify .step] b).1 = .ok ()
      rw [Bus.meet_notify]
      exact nested other b

theorem deliver_ok (nested : e ≠ .step → ∀ b, (notify .step b).1 = .ok ()) (sound : e.Sound)
    (m : Machine) (l : Subscriptions) (b : Bus (Mirrored Heckler)) :
    (Bus.deliver notify m e l b).1 = .ok () := by
  induction l generalizing b with
  | nil => rfl
  | cons s rest ih =>
    by_cases admits : s.filter.admits e.kind
    · have met := meet_ok nested sound s.observer m b.observers
        { b with observers := (Observers.react s.observer e m b.observers).1 }
      rw [Bus.deliver_of_admits admits]
      generalize Bus.meet notify _ _ = outcome at met ⊢
      obtain ⟨result, b'⟩ := outcome
      obtain rfl : result = .ok () := met
      exact ih b'
    · rw [Bus.deliver_of_not_admits admits]
      exact ih b

theorem fair (keeper : ObserverId) : Observers.Fair Heckler keeper (· = .step) where
  asks who e m memory := by
    cases e with
    | memory | cleared | drawn | step => exact List.forall_mem_nil _
    | register name => exact List.forall_mem_singleton.mpr rfl
  ends m e b sound _ := by
    have nested (b : Bus (Mirrored Heckler)) : (Bus.emitWithin m 1 .step b).1 = .ok () :=
      deliver_ok (fun other => absurd rfl other) nofun m b.subscriptions b
    exact deliver_ok (fun _ => nested) sound m b.subscriptions b

end Heckler

namespace Computer

/-- A sprite at the edge, an instruction, and a pop that is refused, with a heckler told first. -/
theorem mirror_inSync_heckled :
    let start : Computer (Mirrored Heckler) :=
      (fresh ⟨[⟨.supervisor, none⟩], .heckler, []⟩).mirrored .monitor
    let deeds : List (Deed .monitor) := [.mutate (.setV 0 61), .mutate (.execute 0xD005),
      .obey .step, .unsubscribe .supervisor (by decide), .mutate .popStack]
    let s := (deeds.foldl carryOut start).system
    Witnessed (· = .step) (start.tellings deeds) s.bus.observers.sightings
      ∧ (∀ x ∈ s.bus.observers.sightings, x.event ≠ .step → x.mirror = .of x.machine)
      ∧ s.bus.observers.mirror = .of s.machine :=
  mirror_inSync (Heckler.fair .monitor) _ _

/-- An actor who unsubscribes the keeper once it has been called. -/
def dropper : Cast :=
  ⟨[(Text.ofString "critic", ⟨.drop, 1, Text.ofString "mirror", 0, []⟩)], [], []⟩

/-- Two ways in which others mislead a keeper, though they neither fail nor write. A heckler tells
of a step before the keeper is told of I, which has changed; and the dropper has the keeper miss a
change of I. -/
theorem mirror_misled :
    (let start : Computer (Mirrored Heckler) :=
        (fresh ⟨[⟨.supervisor, none⟩], .heckler, []⟩).mirrored .monitor
      let told := perform (onSystem (System.setI 5)) start
      told.1 = .ok () ∧ ∃ x ∈ told.2.system.bus.observers.sightings, x.mirror ≠ .of x.machine) ∧
    (let start : Computer (Mirrored Cast) :=
        (fresh ⟨[⟨.client (Text.ofString "critic"), none⟩], dropper, []⟩).mirrored
          (.client (Text.ofString "mirror"))
      let first := perform (onSystem (System.setI 5)) start
      let second := perform (onSystem (System.setI 6)) first.2
      first.1 = .ok () ∧ second.1 = .ok () ∧
        second.2.system.bus.observers.mirror ≠ .of second.2.system.machine) := by
  constructor
  · refine ⟨rfl, _, List.mem_cons_self, fun same => ?_⟩
    exact absurd (congrArg Mirror.i same) (by decide)
  · refine ⟨rfl, rfl, fun same => ?_⟩
    exact absurd (congrArg Mirror.i same) (by decide)

end Computer

end Chip8

import Chip8.Proofs.Calm
import Chip8.Proofs.KeyHost
import Mathlib.Data.List.Induction

/-!
# The held key

A keypad and the machine below it both remember the key that is held, each for itself.

* `KeyDeed` lists what may happen to the two, `KeyDone` says of each deed whether it succeeded.
* `Holds`: the last press was of a key that nothing has released since.
* `Rig.moves`: what one deed does to the key, if keypad and machine agree on it. `Rig.held_key` adds
  the deeds up: the two always agree, on the key that `Holds`.
-/

namespace Chip8

/-- What may happen to a keypad and its host. -/
inductive KeyDeed where
  | press (code : Option KeyCode)
  | release (code : Option KeyCode)
  | hostKeyDown (name : Text)
  | hostKeyUp (name : Text)
  | step
  | loadProgram (image : List UInt8)
  | reset
  /-- The machine alone is reset, whoever drives it. -/
  | resetMachine

/-- A deed, and whether it succeeded. -/
structure KeyDone where
  deed : KeyDeed
  succeeded : Bool

section Spec

variable (keymap : Keymap)

/-- The deed is a press of the code, or of none, that succeeded. -/
def KeyDone.Presses (x : KeyDone) (code : Option KeyCode) : Prop :=
  x.succeeded = true ∧
    match x.deed with
    | .press c => c = code
    | .hostKeyDown name => keymap.translate name = code ∧ code ≠ none
    | _ => False

/-- The deed releases the key, if it is held. -/
def KeyDeed.Releases (k : Key) : KeyDeed → Prop
  | .release none => True
  | .release (some c) => c.value = (k : Nat)
  | .hostKeyUp name => ∃ c, keymap.translate name = some c ∧ c.value = (k : Nat)
  | _ => False

/-- The last press was of the key, and nothing has released it since. -/
def Holds (log : List KeyDone) (k : Key) : Prop :=
  ∃ earlier x later, log = earlier ++ x :: later ∧ x.Presses keymap (some (.ofKey k)) ∧
    ∀ y ∈ later, (∀ code, ¬ y.Presses keymap code) ∧ ¬ y.deed.Releases keymap k

theorem holds_append_iff {log : List KeyDone} {y : KeyDone} {k : Key} :
    Holds keymap (log ++ [y]) k ↔ y.Presses keymap (some (.ofKey k)) ∨
      Holds keymap log k ∧ (∀ code, ¬ y.Presses keymap code) ∧ ¬ y.deed.Releases keymap k := by
  constructor
  · rintro ⟨earlier, x, later, split, pressed, since⟩
    rcases List.eq_nil_or_concat later with rfl | ⟨later, z, rfl⟩
    · obtain ⟨-, same⟩ := List.append_inj' split rfl
      obtain rfl := List.head_eq_of_cons_eq same
      exact .inl pressed
    · rw [List.concat_eq_append, ← List.cons_append, ← List.append_assoc] at split
      obtain ⟨rfl, same⟩ := List.append_inj' split rfl
      obtain rfl := List.head_eq_of_cons_eq same
      rw [List.concat_eq_append, List.forall_mem_append, List.forall_mem_singleton] at since
      exact .inr ⟨⟨earlier, x, later, rfl, pressed, since.1⟩, since.2⟩
  · rintro (pressed | ⟨⟨earlier, x, later, rfl, pressed, since⟩, last⟩)
    · exact ⟨log, y, [], rfl, pressed, List.forall_mem_nil _⟩
    · refine ⟨earlier, x, later ++ [y], ?_, pressed, ?_⟩
      · rw [List.append_assoc, List.cons_append]
      · exact List.forall_mem_append.mpr ⟨since, List.forall_mem_singleton.mpr last⟩

end Spec

section Host

variable {ω : Type} [Observers ω]

/-- What a deed does to a host, and the keypad after it. -/
def KeyDeed.act (p : Keypad) : KeyDeed → KeyHost ω → Except Fault Keypad × KeyHost ω
  | .press code => KeyHost.act (p.press code)
  | .release code => KeyHost.act (p.release code)
  | .hostKeyDown name => KeyHost.act do return (← p.hostKeyDown name).2
  | .hostKeyUp name => KeyHost.act do return (← p.hostKeyUp name).2
  | .step => KeyHost.drive (do let _ ← Computer.step; return p) (return p)
  | .loadProgram image => KeyHost.act do System.loadProgram image; return p
  | .reset => KeyHost.drive (do Computer.reset; return p) (do System.reset; return p)
  | .resetMachine => KeyHost.act do System.reset; return p

/-- A keypad on its host. -/
structure Rig (ω : Type) where
  host : KeyHost ω
  keypad : Keypad

namespace Rig

def key (r : Rig ω) : Option Key := r.host.key

/-- A deed, and whether it succeeded; where it fails, the keypad stays as it was. -/
def obey (r : Rig ω) (x : KeyDeed) : Bool × Rig ω :=
  match x.act r.keypad r.host with
  | (.ok p, h) => (true, ⟨h, p⟩)
  | (.error _, h) => (false, ⟨h, r.keypad⟩)

/-- Deeds one after another. -/
def obeyAll (r : Rig ω) (deeds : List KeyDeed) : List KeyDone × Rig ω :=
  deeds.foldl (fun o x => (o.1 ++ [⟨x, (o.2.obey x).1⟩], (o.2.obey x).2)) ([], r)

end Rig

/-- What a deed makes of the key that is held. -/
inductive KeyMove (keymap : Keymap) (x : KeyDone) : Option Key → Option Key → Prop
  | pressed {held : Option Key} (before : Option Key)
      (press : x.Presses keymap (held.map .ofKey)) : KeyMove keymap x before held
  | released {k : Key} (other : ∀ code, ¬ x.Presses keymap code)
      (release : x.deed.Releases keymap k) : KeyMove keymap x (some k) none
  | kept {held : Option Key} (other : ∀ code, ¬ x.Presses keymap code)
      (unreleased : ∀ k, held = some k → ¬ x.deed.Releases keymap k) : KeyMove keymap x held held

theorem KeyDone.Presses.unique {keymap : Keymap} {x : KeyDone} {c c' : Option KeyCode}
    (h : x.Presses keymap c) (h' : x.Presses keymap c') : c = c' := by
  obtain ⟨deed, succeeded⟩ := x
  cases deed with
  | press code => exact h.2.symm.trans h'.2
  | hostKeyDown name => exact h.2.1.symm.trans h'.2.1
  | _ => exact h.2.elim

theorem KeyMove.eq_some_iff {keymap : Keymap} {x : KeyDone} {before after : Option Key}
    (h : KeyMove keymap x before after) (k : Key) :
    after = some k ↔ x.Presses keymap (some (.ofKey k)) ∨
      before = some k ∧ (∀ code, ¬ x.Presses keymap code) ∧ ¬ x.deed.Releases keymap k := by
  cases h with
  | pressed _ press =>
    constructor
    · rintro rfl
      exact .inl press
    · rintro (again | ⟨-, other, -⟩)
      · obtain ⟨k', rfl, same⟩ := Option.map_eq_some_iff.mp (press.unique again)
        rw [KeyCode.ofKey_injective same]
      · exact absurd press (other _)
  | released other release =>
    constructor
    · intro h
      cases h
    · rintro (press | ⟨same, -, unreleased⟩)
      · exact absurd press (other _)
      · obtain rfl := Option.some.inj same
        exact absurd release unreleased
  | kept other unreleased =>
    constructor
    · intro held
      exact .inr ⟨held, other, unreleased k held⟩
    · rintro (press | ⟨held, -⟩)
      · exact absurd press (other _)
      · exact held

theorem Keypad.concerns_iff {keymap : Keymap} {code : Option KeyCode} {k : Key} :
    concerns code k = true ↔ KeyDeed.Releases keymap k (.release code) := by
  cases code with
  | none => exact ⟨fun _ => trivial, fun _ => rfl⟩
  | some c => exact decide_eq_true_iff

namespace Rig

variable {r : Rig ω} {x : KeyDeed}

/-- Keypad and machine agree after a deed, on the key that it leaves. -/
structure Moves (r : Rig ω) (x : KeyDeed) : Prop where
  keymap : (r.obey x).2.keypad.keymap = r.keypad.keymap
  agree : (r.obey x).2.keypad.held = (r.obey x).2.key
  move : KeyMove r.keypad.keymap ⟨x, (r.obey x).1⟩ r.key (r.obey x).2.key

theorem Moves.of_obey {succeeded : Bool} {h : KeyHost ω} {p : Keypad}
    (obeyed : r.obey x = (succeeded, ⟨h, p⟩)) (keymap : p.keymap = r.keypad.keymap)
    (agree : p.held = h.key) (move : KeyMove r.keypad.keymap ⟨x, succeeded⟩ r.key h.key) :
    r.Moves x := by
  constructor <;> rw [obeyed] <;> assumption

theorem obey_of_ok {p : Keypad} (h : (x.act r.keypad r.host).1 = .ok p) :
    r.obey x = (true, ⟨(x.act r.keypad r.host).2, p⟩) := by
  rw [obey, ← Prod.eta (x.act r.keypad r.host), h]

theorem obey_of_error {cause : Fault} (h : (x.act r.keypad r.host).1 = .error cause) :
    r.obey x = (false, ⟨(x.act r.keypad r.host).2, r.keypad⟩) := by
  rw [obey, ← Prod.eta (x.act r.keypad r.host), h]

/-- A deed that presses a code, if it succeeds. -/
theorem moves_of_press (agrees : r.keypad.held = r.key) {code : Option KeyCode}
    (acts : x.act r.keypad r.host = KeyHost.act (r.keypad.press code) r.host)
    (presses : KeyDone.Presses r.keypad.keymap ⟨x, true⟩ code)
    (unreleased : ∀ k, ¬ x.Releases r.keypad.keymap k) : r.Moves x := by
  rcases KeyHost.act_press r.keypad code r.host with ⟨cause, refused⟩ | ⟨held, rfl, ok, key⟩
  · rw [← acts] at refused
    have obeyed := obey_of_error (congrArg Prod.fst refused)
    rw [refused] at obeyed
    refine .of_obey obeyed rfl agrees (.kept ?_ fun k _ => unreleased k)
    exact fun _ pressed => Bool.false_ne_true pressed.1
  · rw [← acts] at ok key
    refine .of_obey (obey_of_ok ok) rfl key.symm ?_
    rw [key]
    exact .pressed _ presses

/-- A deed that releases a code. -/
theorem moves_of_release (agrees : r.keypad.held = r.key) {code : Option KeyCode}
    (acts : x.act r.keypad r.host = KeyHost.act (r.keypad.release code) r.host)
    (other : ∀ succeeded code, ¬ KeyDone.Presses r.keypad.keymap ⟨x, succeeded⟩ code)
    (releases : ∀ k, Keypad.concerns code k = true ↔ x.Releases r.keypad.keymap k) :
    r.Moves x := by
  rcases KeyHost.act_release agrees code with ⟨k, held, concerned, ok, key⟩ | ⟨others, nothing⟩
  · rw [← acts] at ok key
    refine .of_obey (obey_of_ok ok) rfl key.symm ?_
    rw [key, Rig.key, held]
    exact .released (other _) ((releases k).mp concerned)
  · rw [← acts] at nothing
    have obeyed := obey_of_ok (congrArg Prod.fst nothing)
    rw [nothing] at obeyed
    refine .of_obey obeyed rfl agrees (.kept (other _) fun k held released => ?_)
    exact Bool.false_ne_true ((others k held).symm.trans ((releases k).mpr released))

/-- A deed that does not touch the keypad, and leaves the key of the machine. -/
theorem moves_of_kept (agrees : r.keypad.held = r.key)
    (keypad : ∀ p, (x.act r.keypad r.host).1 = .ok p → p = r.keypad)
    (key : (x.act r.keypad r.host).2.key = r.key)
    (other : ∀ succeeded code, ¬ KeyDone.Presses r.keypad.keymap ⟨x, succeeded⟩ code)
    (unreleased : ∀ k, ¬ x.Releases r.keypad.keymap k) : r.Moves x := by
  have obeyed : ∃ b, r.obey x = (b, ⟨(x.act r.keypad r.host).2, r.keypad⟩) := by
    cases result : (x.act r.keypad r.host).1 with
    | error cause => exact ⟨false, obey_of_error result⟩
    | ok p =>
      obtain rfl := keypad p result
      exact ⟨true, obey_of_ok result⟩
  obtain ⟨b, obeyed⟩ := obeyed
  refine .of_obey obeyed rfl (agrees.trans key.symm) ?_
  rw [key]
  exact .kept (other _) fun k _ => unreleased k

/-- **What a deed does to the key**, where keypad and machine agree on it. -/
theorem moves (agrees : r.keypad.held = r.key) (x : KeyDeed) : r.Moves x := by
  cases x with
  | press code => exact moves_of_press agrees rfl ⟨rfl, rfl⟩ fun _ => id
  | release code =>
    exact moves_of_release agrees rfl (fun _ _ => And.right) fun _ => Keypad.concerns_iff
  | hostKeyDown name =>
    cases mapped : r.keypad.keymap.translate name with
    | none =>
      have nothing : KeyDeed.act r.keypad (.hostKeyDown name) r.host
          = KeyHost.act (pure r.keypad) r.host :=
        congrArg (KeyHost.act · r.host) (Keypad.hostKeyDown_unmapped mapped)
      obtain ⟨keypad, key⟩ := KeyHost.act_kept (.pure ()) r.keypad r.host
      refine moves_of_kept agrees (nothing ▸ keypad) (nothing ▸ key) ?_ fun _ => id
      exact fun _ _ pressed => pressed.2.2 (pressed.2.1.symm.trans mapped)
    | some c =>
      have press : KeyDeed.act r.keypad (.hostKeyDown name) r.host
          = KeyHost.act (r.keypad.press (some c)) r.host :=
        congrArg (KeyHost.act · r.host) (Keypad.hostKeyDown_mapped mapped)
      exact moves_of_press agrees press ⟨rfl, mapped, Option.some_ne_none c⟩ fun _ => id
  | hostKeyUp name =>
    cases mapped : r.keypad.keymap.translate name with
    | none =>
      have nothing : KeyDeed.act r.keypad (.hostKeyUp name) r.host
          = KeyHost.act (pure r.keypad) r.host :=
        congrArg (KeyHost.act · r.host) (Keypad.hostKeyUp_unmapped mapped)
      obtain ⟨keypad, key⟩ := KeyHost.act_kept (.pure ()) r.keypad r.host
      refine moves_of_kept agrees (nothing ▸ keypad) (nothing ▸ key) (fun _ _ => And.right) ?_
      rintro k ⟨c, known, -⟩
      cases mapped.symm.trans known
    | some c =>
      have release : KeyDeed.act r.keypad (.hostKeyUp name) r.host
          = KeyHost.act (r.keypad.release (some c)) r.host :=
        congrArg (KeyHost.act · r.host) (Keypad.hostKeyUp_mapped mapped)
      refine moves_of_release agrees release (fun _ _ => And.right) fun k => ?_
      have concerns : Keypad.concerns (some c) k = true ↔ c.value = (k : Nat) := decide_eq_true_iff
      rw [concerns]
      constructor
      · exact fun same => ⟨c, mapped, same⟩
      · rintro ⟨c', known, same⟩
        obtain rfl := Option.some.inj (mapped.symm.trans known)
        exact same
  | step =>
    obtain ⟨keypad, key⟩ := KeyHost.drive_kept Computer.keeps_key_step (.pure ()) r.keypad r.host
    exact moves_of_kept agrees keypad key (fun _ _ => And.right) fun _ => id
  | loadProgram image =>
    obtain ⟨keypad, key⟩ := KeyHost.act_kept (System.leaves_key_load image) r.keypad r.host
    exact moves_of_kept agrees keypad key (fun _ _ => And.right) fun _ => id
  | reset =>
    obtain ⟨keypad, key⟩ :=
      KeyHost.drive_kept Computer.keeps_key_reset System.leaves_key_reset r.keypad r.host
    exact moves_of_kept agrees keypad key (fun _ _ => And.right) fun _ => id
  | resetMachine =>
    obtain ⟨keypad, key⟩ := KeyHost.act_kept System.leaves_key_reset r.keypad r.host
    exact moves_of_kept agrees keypad key (fun _ _ => And.right) fun _ => id

theorem obeyAll_append (r : Rig ω) (deeds : List KeyDeed) (x : KeyDeed) :
    r.obeyAll (deeds ++ [x]) =
      let o := r.obeyAll deeds
      (o.1 ++ [⟨x, (o.2.obey x).1⟩], (o.2.obey x).2) := by
  rw [obeyAll, List.foldl_append]
  rfl

/-- **Keypad and machine agree on the held key**, after every deed, also after one that fails. It is
the key of the last press that succeeded, unless a release of it came since, and with no such press
there is none. -/
theorem held_key (keymap : Keymap) (host : KeyHost ω) (idle : host.key = none)
    (deeds : List KeyDeed) :
    let o := obeyAll ⟨host, .ofKeymap keymap⟩ deeds
    o.2.keypad.held = o.2.key ∧ ∀ k : Key, o.2.key = some k ↔ Holds keymap o.1 k := by
  suffices law : (obeyAll ⟨host, .ofKeymap keymap⟩ deeds).2.keypad.keymap = keymap ∧
      (obeyAll ⟨host, .ofKeymap keymap⟩ deeds).2.keypad.held
        = (obeyAll ⟨host, .ofKeymap keymap⟩ deeds).2.key ∧
      ∀ k : Key, (obeyAll ⟨host, .ofKeymap keymap⟩ deeds).2.key = some k ↔
        Holds keymap (obeyAll ⟨host, .ofKeymap keymap⟩ deeds).1 k from law.2
  induction deeds using List.reverseRecOn with
  | nil =>
    refine ⟨rfl, idle.symm, fun k => ?_⟩
    have empty : ¬ Holds keymap [] k := by
      rintro ⟨earlier, x, later, split, -⟩
      exact List.append_ne_nil_of_right_ne_nil earlier (List.cons_ne_nil x later) split.symm
    constructor
    · intro held
      cases idle.symm.trans held
    · intro holds
      exact absurd holds empty
  | append_singleton deeds x ih =>
    obtain ⟨sameKeymap, agrees, last⟩ := ih
    obtain ⟨keymap', agrees', move⟩ := moves agrees x
    rw [sameKeymap] at keymap' move
    rw [obeyAll_append]
    refine ⟨keymap', agrees', fun k => ?_⟩
    rw [move.eq_some_iff, last, holds_append_iff]

/-- The key zero is held on, whatever else is released or refused, until the truth value that equals
it is released. -/
theorem held_key_zero :
    let keymap : Keymap := ⟨[(Text.ofString "x", .integer 0), (Text.ofString "z", .truth true)], by
      decide⟩
    let c : Computer Transcript := Computer.fresh ⟨[⟨.monitor, none⟩], ⟨[]⟩, []⟩
    let deeds : List KeyDeed := [.hostKeyDown (Text.ofString "X"), .release (some (.integer 5)),
      .hostKeyDown (Text.ofString "z"), .step]
    let o := obeyAll ⟨.driven c, .ofKeymap keymap⟩ deeds
    let o' := obeyAll ⟨.driven c, .ofKeymap keymap⟩ (deeds ++ [.release (some (.truth false))])
    (KeyHost.driven c).key = none ∧ o.2.keypad.held = o.2.key ∧
      Holds keymap o.1 ⟨0, by decide⟩ ∧ o'.2.keypad.held = o'.2.key ∧ o'.2.key = none := by
  intro keymap c deeds
  dsimp only
  obtain ⟨agree, last⟩ := held_key keymap (.driven c) rfl deeds
  obtain ⟨agree', -⟩ := held_key keymap (.driven c) rfl (deeds ++ [.release (some (.truth false))])
  refine ⟨rfl, agree, (last _).mp ?_, agree', ?_⟩
  · decide +kernel
  · decide +kernel

end Rig

end Host

end Chip8

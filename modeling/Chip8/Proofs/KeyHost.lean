import Chip8.Keys.Keypad
import Chip8.Proofs.Invariant

/-!
# Keypads and their hosts

What a keypad presses its keys on, and what becomes of the machine's key there.

* `KeyHost` is a machine alone, or a computer. What a keypad does acts on the machine; a computer
  passes it on.
* `act_press`, `act_release`: a press is refused and changes nothing, or keypad and machine take its
  key; a release lets go of the held key, or changes nothing.
* `act_kept`, `drive_kept`: what runs, loads or resets the machine leaves its key alone, also where
  it fails.
-/

namespace Chip8

/-- A machine alone, or a computer that drives one. -/
inductive KeyHost (ω : Type) where
  | bare (s : System ω)
  | driven (c : Computer ω)

theorem KeyCode.ofKey_injective {k k' : Key} (same : ofKey k = ofKey k') : k = k' := by
  have keys := congrArg key? same
  rw [key?_ofKey, key?_ofKey] at keys
  exact Option.some.inj keys

theorem blind_key : Blind Machine.key :=
  ⟨fun _ _ => rfl, fun _ _ => rfl, fun _ _ => rfl, fun _ _ => rfl, fun _ _ => rfl, fun _ _ => rfl⟩

namespace System

open Chip8.Action

theorem leaves_key_setSp (x : Int) : (setSp x).Leaves Machine.key := leaves_setSp (fun _ _ => rfl) x

theorem leaves_key_setPc (x : Int) : (setPc x).Leaves Machine.key := leaves_setPc (fun _ _ => rfl) x

theorem leaves_key_load (image : List UInt8) : (loadProgram image).Leaves Machine.key :=
  (stores_leave blind_key).loadProgram leaves_key_setPc image

theorem leaves_key_reset : reset.Leaves Machine.key :=
  (stores_leave blind_key).reset leaves_key_setSp leaves_key_setPc (.change fun _ => rfl)

theorem leaves_key_instruction : Computer.instruction.Leaves Machine.key :=
  (stores_leave blind_key).toCompositional.instruction (.notify _)
    (fun d => (stores_leave blind_key).writers.execute d
      ((stores_leave blind_key).pushStack leaves_key_setSp)
      ((stores_leave blind_key).popStack leaves_key_setSp))
    leaves_key_setPc

theorem leaves_key_advance (t : Timers) : t.advance.Leaves Machine.key :=
  Timers.advance_of_parts (stores_leave blind_key).toCompositional (stores_leave blind_key).setDt
    (stores_leave blind_key).setSt (.change fun _ => rfl)

theorem key_run {ω α : Type} [Observers ω] {a : Action α} (h : a.Leaves Machine.key)
    (s : System ω) : (run a s).2.machine.key = s.machine.key :=
  run_of_ends (h s.machine)

end System

section Host

variable {ω α : Type} [Observers ω]

namespace KeyHost

def system : KeyHost ω → System ω
  | bare s => s
  | driven c => c.system

def key (h : KeyHost ω) : Option Key := h.system.machine.key

/-- An activity of the machine; a computer passes it on. -/
def act (a : Action α) : KeyHost ω → Except Fault α × KeyHost ω
  | bare s => ((System.run a s).1, bare (System.run a s).2)
  | driven c =>
    let o := Computer.perform (Computer.onSystem a) c
    (o.1, driven o.2)

def withSystem (h : KeyHost ω) (s : System ω) : KeyHost ω :=
  match h with
  | bare _ => bare s
  | driven c => driven { c with system := s }

omit [Observers ω] in
theorem withSystem_system (h : KeyHost ω) : h.withSystem h.system = h := by
  cases h <;> rfl

omit [Observers ω] in
theorem key_withSystem (h : KeyHost ω) (s : System ω) : (h.withSystem s).key = s.machine.key := by
  cases h <;> rfl

theorem act_eq (a : Action α) (h : KeyHost ω) :
    act a h = ((System.run a h.system).1, h.withSystem (System.run a h.system).2) := by
  cases h <;> rfl

/-- An activity of the computer, or else another one of the machine alone. -/
def drive (t : Task ω α) (alone : Action α) : KeyHost ω → Except Fault α × KeyHost ω
  | bare s => act alone (bare s)
  | driven c =>
    let o := Computer.perform t c
    (o.1, driven o.2)

end KeyHost

namespace Computer

variable {key : Option Key}

theorem keeps_key_onSystem {a : Action α} (h : a.Leaves Machine.key) :
    Preserves (·.system.machine.key = key) (onSystem a : Task ω α) :=
  fun c same => (System.key_run h c.system).trans same

theorem keeps_key_step : Preserves (·.system.machine.key = key) (step : Task ω Decoded) :=
  .bind (keeps_key_onSystem System.leaves_key_instruction) fun _ =>
    .bind (.modify fun _ same => same) fun _ => .bind .get fun c =>
      .bind (keeps_key_onSystem (System.leaves_key_advance c.timers)) fun _ => .pure _

theorem keeps_key_reset : Preserves (·.system.machine.key = key) (reset : Task ω Unit) :=
  .bind (keeps_key_onSystem System.leaves_key_reset) fun _ => .modify fun _ same => same

end Computer

theorem KeyHost.act_kept {a : Action Unit} (kept : a.Leaves Machine.key) (p : Keypad)
    (h : KeyHost ω) :
    (∀ q, (act (do a; return p) h).1 = .ok q → q = p) ∧ (act (do a; return p) h).2.key = h.key := by
  have key := System.key_run (kept.bind fun _ => .pure p) h.system
  rw [act_eq, key_withSystem]
  refine ⟨fun q ok => ?_, key⟩
  rw [System.run_bind] at ok
  cases run : System.run a h.system with
  | mk result s =>
    rw [run] at ok
    cases result with
    | error cause => cases ok
    | ok _ => exact (Except.ok.inj ok).symm

theorem KeyHost.drive_kept {β : Type} {t : Task ω β} {a : Action Unit}
    (driven : ∀ {key : Option Key}, Computer.Preserves (·.system.machine.key = key) t)
    (alone : a.Leaves Machine.key) (p : Keypad) (h : KeyHost ω) :
    let o := drive (do let _ ← t; return p) (do a; return p) h
    (∀ q, o.1 = .ok q → q = p) ∧ o.2.key = h.key := by
  cases h with
  | bare s => exact act_kept alone p (bare s)
  | driven c =>
    intro o
    have key := Computer.Preserves.bind driven (fun _ => .pure p) c rfl
    refine ⟨fun q ok => ?_, key⟩
    have ok : (Computer.perform (do let _ ← t; return p) c).1 = .ok q := ok
    rw [Computer.perform_bind] at ok
    cases run : Computer.perform t c with
    | mk result c' =>
      rw [run] at ok
      cases result with
      | error cause => cases ok
      | ok _ => exact (Except.ok.inj ok).symm

/-- A press is refused, or takes the key of its code. -/
theorem Keypad.run_press (p : Keypad) (code : Option KeyCode) (s : System ω) :
    (∃ cause, System.run (p.press code) s = (.error cause, s)) ∨
    ∃ held : Option Key, code = held.map .ofKey ∧ System.run (p.press code) s =
      (.ok { p with held := held }, { s with machine := { s.machine with key := held } }) := by
  cases code with
  | none => exact .inr ⟨none, rfl, rfl⟩
  | some c =>
    rw [press, System.run_bind, System.press]
    cases known : c.key? with
    | none =>
      left
      exact ⟨.invalidKey c, rfl⟩
    | some k =>
      right
      simp only [known, Option.bind_some]
      exact ⟨some k, congrArg some (KeyCode.eq_ofKey_of_key? known), rfl⟩

theorem KeyHost.act_press (p : Keypad) (code : Option KeyCode) (h : KeyHost ω) :
    (∃ cause, act (p.press code) h = (.error cause, h)) ∨
    ∃ held : Option Key, code = held.map .ofKey ∧
      (act (p.press code) h).1 = .ok { p with held := held } ∧
      (act (p.press code) h).2.key = held := by
  rw [act_eq]
  rcases p.run_press code h.system with ⟨cause, refused⟩ | ⟨held, same, accepted⟩
  · rw [refused]
    exact .inl ⟨cause, congrArg _ h.withSystem_system⟩
  · rw [accepted, key_withSystem]
    exact .inr ⟨held, same, rfl, rfl⟩

theorem KeyHost.act_release {p : Keypad} {h : KeyHost ω} (agrees : p.held = h.key)
    (code : Option KeyCode) :
    (∃ k, h.key = some k ∧ Keypad.concerns code k = true ∧
      (act (p.release code) h).1 = .ok { p with held := none } ∧
      (act (p.release code) h).2.key = none) ∨
    (∀ k, h.key = some k → Keypad.concerns code k = false) ∧
      act (p.release code) h = (.ok p, h) := by
  have nothing (run : p.release code = return p) : act (p.release code) h = (.ok p, h) := by
    rw [run, act_eq]
    exact congrArg _ h.withSystem_system
  rw [← agrees]
  cases held : p.held with
  | none =>
    refine .inr ⟨fun k same => ?_, nothing ?_⟩
    · cases same
    · rw [Keypad.release, held]
  | some k =>
    by_cases concerned : Keypad.concerns code k = true
    · refine .inl ⟨k, rfl, concerned, ?_⟩
      have run : p.release code = do System.release; return { p with held := none } := by
        rw [Keypad.release, held]
        exact if_pos concerned
      rw [run, act_eq, key_withSystem]
      exact ⟨rfl, rfl⟩
    · refine .inr ⟨fun k' same => ?_, nothing ?_⟩
      · obtain rfl := Option.some.inj same
        exact eq_false_of_ne_true concerned
      · rw [Keypad.release, held]
        exact if_neg concerned

namespace Keypad

variable {p : Keypad} {name : Text} {c : KeyCode}

theorem hostKeyDown_mapped (mapped : p.keymap.translate name = some c) :
    (do return (← p.hostKeyDown name).2 : Action Keypad) = p.press (some c) := by
  rw [hostKeyDown, mapped]
  simp only [bind_assoc, pure_bind, bind_pure]

theorem hostKeyDown_unmapped (unmapped : p.keymap.translate name = none) :
    (do return (← p.hostKeyDown name).2 : Action Keypad) = pure p := by
  rw [hostKeyDown, unmapped]
  exact pure_bind _ _

theorem hostKeyUp_mapped (mapped : p.keymap.translate name = some c) :
    (do return (← p.hostKeyUp name).2 : Action Keypad) = p.release (some c) := by
  rw [hostKeyUp, mapped]
  simp only [bind_assoc, pure_bind, bind_pure]

theorem hostKeyUp_unmapped (unmapped : p.keymap.translate name = none) :
    (do return (← p.hostKeyUp name).2 : Action Keypad) = pure p := by
  rw [hostKeyUp, unmapped]
  exact pure_bind _ _

end Keypad

end Host

end Chip8

import Chip8.Proofs.Steps

/-!
# Runs

Steps one after another, with input from the host between them.

* An `Act` is a step or an `Input`: a key press, a release or a new seed. Nothing else comes from
  outside, so machines change only by steps, but for key and generator (`give_eq`).
* `Computer.turns` lists the steps of a run, each with the computer before and after it;
  `Computer.after` is the computer at the end.
* What a step and an input preserve, a run does: `after_keeps`, and `after_induction` where a count
  goes along.
* `turns_eq_append_cons`: a run falls into what comes before one of its steps and what comes after.
-/

namespace Chip8

/-- What a host may do between two steps without writing to the machine. -/
inductive Input where
  | press (code : Option KeyCode)
  | release
  /-- The generator starts anew, from a seed or from anything else. -/
  | reseed (generator : Twister)

inductive Act where
  | step
  | give (x : Input)

/-- A step of a run. -/
structure Turn (ω : Type) where
  before : Computer ω
  result : Except Fault Decoded
  after : Computer ω

namespace Turn

variable {ω : Type}

/-- The machine at the beginning of the turn. -/
def machine (t : Turn ω) : Machine := t.before.system.machine

/-- The machine at the end of the turn. -/
def machineAfter (t : Turn ω) : Machine := t.after.system.machine

/-- The instruction that the turn executes. -/
def decoded (t : Turn ω) : Decoded := Computer.fetched t.machine

def Executes (t : Turn ω) (op : Operation) : Prop := t.decoded.operation? = some op

def Succeeds (t : Turn ω) : Prop := ∃ d, t.result = .ok d

instance (t : Turn ω) (op : Operation) : Decidable (t.Executes op) :=
  inferInstanceAs (Decidable (_ = _))

instance (t : Turn ω) : Decidable t.Succeeds :=
  match h : t.result with
  | .ok d => .isTrue ⟨d, h⟩
  | .error _ => .isFalse fun ⟨_, h'⟩ => nomatch h.symm.trans h'

end Turn

namespace Computer

variable {ω : Type} [Observers ω]

/-- The computer after an input. A key without a code of its own is refused and changes nothing. -/
def give (c : Computer ω) : Input → Computer ω
  | .press code => (perform (pressKey code) c).2
  | .release => (perform releaseKey c).2
  | .reseed generator =>
    (perform (onSystem (System.change fun m => { m with generator := generator })) c).2

/-- One step of a computer. -/
def turn (c : Computer ω) : Turn ω := ⟨c, (perform step c).1, (perform step c).2⟩

/-- The steps of a run. -/
def turns (c : Computer ω) : List Act → List (Turn ω)
  | [] => []
  | .step :: rest => c.turn :: turns c.turn.after rest
  | .give x :: rest => turns (c.give x) rest

/-- The computer after a run. -/
def after (c : Computer ω) : List Act → Computer ω
  | [] => c
  | .step :: rest => after c.turn.after rest
  | .give x :: rest => after (c.give x) rest

/-- An input reaches the pending key and the generator alone. -/
theorem give_eq (c : Computer ω) (x : Input) : ∃ key generator, c.give x =
    { c with system := { c.system with
        machine := { c.system.machine with key := key, generator := generator } } } := by
  cases x with
  | release => exact ⟨none, c.system.machine.generator, rfl⟩
  | reseed generator => exact ⟨c.system.machine.key, generator, rfl⟩
  | press code =>
    cases code with
    | none => exact ⟨none, c.system.machine.generator, rfl⟩
    | some code =>
      simp only [give, pressKey, perform_onSystem, System.press]
      cases code.key? with
      | none => exact ⟨c.system.machine.key, c.system.machine.generator, rfl⟩
      | some k => exact ⟨some k, c.system.machine.generator, rfl⟩

theorem perform_step_of_succeeds {c : Computer ω} (h : c.turn.Succeeds) :
    perform step c = (.ok c.turn.decoded, c.turn.after) := by
  obtain ⟨d, hd⟩ := h
  have ok : perform step c = (.ok d, c.turn.after) := Prod.ext hd rfl
  obtain ⟨rfl, -⟩ := step_eq_ok ok
  exact ok

/-- What inputs leave, and steps that succeed carry on with a count, is so at the end of a run. -/
theorem after_induction {P : Nat → Computer ω → Prop} {Q : Turn ω → Prop}
    (give : ∀ n c x, P n c → P n (c.give x))
    (step : ∀ n c, Q c.turn → P n c → P (n + 1) c.turn.after) (xs : List Act) {n : Nat}
    {c : Computer ω} (hQ : ∀ t ∈ c.turns xs, Q t) (h : P n c) :
    P (n + (c.turns xs).length) (c.after xs) := by
  induction xs generalizing n c with
  | nil => exact h
  | cons x rest ih =>
    cases x with
    | give x => exact ih hQ (give n c x h)
    | step =>
      obtain ⟨first, later⟩ := List.forall_mem_cons.mp hQ
      have next := ih later (step n c first h)
      rw [Nat.add_assoc, Nat.add_comm 1] at next
      exact next

theorem after_keeps {P : Computer ω → Prop} {Q : Turn ω → Prop}
    (give : ∀ c x, P c → P (c.give x)) (step : ∀ c, Q c.turn → P c → P c.turn.after)
    (xs : List Act) {c : Computer ω} (hQ : ∀ t ∈ c.turns xs, Q t) (h : P c) : P (c.after xs) :=
  after_induction (P := fun _ => P) (n := 0) (fun _ => give) (fun _ => step) xs hQ h

/-- A run cut before and after one of its steps. -/
theorem turns_eq_append_cons {xs : List Act} {c : Computer ω} {l l' : List (Turn ω)}
    {t : Turn ω} (h : c.turns xs = l ++ t :: l') : ∃ ys zs, c.turns ys = l ∧
      t = (c.after ys).turn ∧ t.after.turns zs = l' ∧ t.after.after zs = c.after xs := by
  induction xs generalizing c l with
  | nil => exact absurd h.symm (by simp [turns])
  | cons x rest ih =>
    cases x with
    | give x =>
      obtain ⟨ys, zs, before, ht, later, ends⟩ := ih h
      exact ⟨.give x :: ys, zs, before, ht, later, ends⟩
    | step =>
      cases l with
      | nil =>
        obtain ⟨rfl, later⟩ := List.cons.inj h
        exact ⟨[], rest, rfl, rfl, later, rfl⟩
      | cons t l =>
        obtain ⟨rfl, hl⟩ := List.cons.inj h
        obtain ⟨ys, zs, before, ht, later, ends⟩ := ih hl
        exact ⟨.step :: ys, zs, congrArg _ before, ht, later, ends⟩

end Computer

end Chip8

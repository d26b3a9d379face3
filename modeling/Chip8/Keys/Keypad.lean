import Chip8.Keys.Keymap
import Chip8.System.Lifecycle

/-!
# Keypads

A keypad translates host keys and remembers which key it holds.

* A press reaches the machine first; if that refuses it, the keypad holds what it held.
* A release of a key that is not held, or with no key held, does nothing.
-/

namespace Chip8

/-- A keymap and the key that is held. -/
structure Keypad where
  keymap : Keymap
  held : Option Key

namespace Keypad

def ofKeymap (keymap : Keymap) : Keypad := ⟨keymap, none⟩

/-- The key of a code is pressed, or none. -/
def press (p : Keypad) (code : Option KeyCode) : Action Keypad := do
  System.press code
  return { p with held := code.bind KeyCode.key? }

/-- The code, where there is one, is that of the key. -/
def concerns (code : Option KeyCode) (held : Key) : Bool :=
  match code with
  | none => true
  | some c => c.value = (held : Nat)

/-- The held key is released if the code concerns it. -/
def release (p : Keypad) (code : Option KeyCode) : Action Keypad := do
  match p.held with
  | none => return p
  | some held =>
    if concerns code held then
      System.release
      return { p with held := none }
    else return p

/-- A host key goes down; the result says whether it is mapped. -/
def hostKeyDown (p : Keypad) (name : Text) : Action (Bool × Keypad) := do
  match p.keymap.translate name with
  | none => return (false, p)
  | some code => return (true, ← p.press (some code))

/-- A host key goes up; the result says whether it is mapped. -/
def hostKeyUp (p : Keypad) (name : Text) : Action (Bool × Keypad) := do
  match p.keymap.translate name with
  | none => return (false, p)
  | some code => return (true, ← p.release (some code))

end Keypad

end Chip8

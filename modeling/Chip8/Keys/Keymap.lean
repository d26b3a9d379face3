import Chip8.Keys.Code
import Chip8.Keys.Layout
import Chip8.Text.Casing
import Chip8.Text.Quoted

/-!
# Keymaps

Host key names, each with the code of a key, in order.

* A name given twice keeps its first place and takes the last code. That holds for the names
  as given and again for their lower-case forms.
* Every code must be that of a key; the first that is none is refused. Truth values pass.
* Without entries the keyboard's left side is the keymap.
-/

namespace Chip8

/-- Names with codes, in order. -/
abbrev KeyEntries := List (Text × KeyCode)

namespace KeyEntries

/-- The entries with one more. -/
def put (entries : KeyEntries) (name : Text) (code : KeyCode) : KeyEntries :=
  if entries.any (·.1 == name) then
    entries.map fun e => if e.1 == name then (name, code) else e
  else entries ++ [(name, code)]

def ofList (l : List (Text × KeyCode)) : KeyEntries :=
  l.foldl (fun entries e => put entries e.1 e.2) []

def code? (entries : KeyEntries) (name : Text) : Option KeyCode :=
  (List.find? (·.1 == name) entries).map (·.2)

def lowered (entries : KeyEntries) : KeyEntries :=
  ofList (entries.map fun e => (Text.lower e.1, e.2))

/-- The keyboard's left side. -/
def standard : KeyEntries :=
  hostKeys.map fun (c, n) => ([CodePoint.ofChar c], .integer n)

end KeyEntries

/-- A keymap entry whose code is that of no key. -/
structure KeymapFault where
  name : Text
  code : KeyCode

def KeymapFault.message (f : KeymapFault) : String :=
  "Invalid key " ++ f.code.text ++ " for host key " ++ Text.quoted f.name

def KeyCode.inRange (c : KeyCode) : Bool := 0 ≤ c.value && c.value ≤ 15

/-- Entries under lower-case names, every code that of a key. -/
structure Keymap where
  entries : KeyEntries
  inRange : ∀ e ∈ entries, e.2.inRange = true

namespace Keymap

/-- The keymap of entries, or the first that is refused. -/
def ofEntries (given : List (Text × KeyCode)) : Except KeymapFault Keymap :=
  let given := KeyEntries.ofList given
  let entries := (if given.isEmpty then KeyEntries.standard else given).lowered
  match h : List.find? (fun e => !e.2.inRange) entries with
  | some e => .error ⟨e.1, e.2⟩
  | none => .ok ⟨entries, by simpa using List.find?_eq_none.mp h⟩

/-- The code of a host key, whatever the case of its name. -/
def translate (m : Keymap) (name : Text) : Option KeyCode := m.entries.code? (Text.lower name)

end Keymap

end Chip8

import Chip8.Json.Reader
import Chip8.Json.Writer
import Chip8.Settings.Basic

/-!
# Stored settings

Settings as text: an object of four members over several lines, in ASCII, made from a
copy of the fields. Any text is read that has bytes in UTF-8.
-/

namespace Chip8.Settings

/-- Room for the copy of each field when settings are stored. -/
def storingRoom : Nat := 993

def save (s : Settings) : Except Fault String := do
  return (Json.obj (← s.copied storingRoom)).pretty

def load (text : Text) : Except Fault Settings :=
  match text.surrogateRun? with
  | some cause => throw (.encoding cause)
  | none =>
    match Json.parse text.toString with
    | .ok v => ofJson v
    | .error cause => throw (.text cause)

def reloadsSame (s : Settings) : Except Fault Bool := do
  return (← load (Text.ofString (← s.save))).same s

end Chip8.Settings

/-!
# Code points

Text as a list of code points:

* `CodePoint` is any number below `0x110000`, so half of a surrogate pair may stand alone;
* `Text.toChars?_map_ofChar`: the characters of a string come back from its code points;
* `Text.ofString_injective`: two strings have the same code points only if they are equal.
-/

namespace Chip8

/-- One code point. Halves of surrogate pairs are code points too. -/
structure CodePoint where
  value : Nat
  value_lt : value < 0x110000
  deriving DecidableEq

instance : Inhabited CodePoint := ⟨⟨0, by decide⟩⟩

abbrev Text := List CodePoint

namespace CodePoint

@[ext] theorem ext {a b : CodePoint} (h : a.value = b.value) : a = b := by
  cases a; cases b; cases h; rfl

def ofChar (c : Char) : CodePoint :=
  ⟨c.toNat, by
    have := c.valid
    simp only [Char.toNat, UInt32.isValidChar, Nat.isValidChar] at *
    omega⟩

/-- The code point of a number; numbers past the last code point become U+FFFD. -/
def ofNat (n : Nat) : CodePoint :=
  if h : n < 0x110000 then ⟨n, h⟩ else ⟨0xFFFD, by decide⟩

/-- The character of a code point, unless it is half of a surrogate pair. -/
def toChar? (c : CodePoint) : Option Char :=
  if h : c.value.isValidChar then some (Char.ofNatAux c.value h) else none

def isHighSurrogate (c : CodePoint) : Bool := 0xD800 ≤ c.value && c.value ≤ 0xDBFF

def isLowSurrogate (c : CodePoint) : Bool := 0xDC00 ≤ c.value && c.value ≤ 0xDFFF

theorem toChar?_ofChar (c : Char) : (ofChar c).toChar? = some c := by
  have h : (ofChar c).value.isValidChar := c.valid
  rw [toChar?, dif_pos h]
  apply congrArg
  apply Char.ext
  exact UInt32.ofNatLT_toNat _

end CodePoint

namespace Text

def ofString (s : String) : Text := s.toList.map CodePoint.ofChar

instance : Coe String Text := ⟨ofString⟩

/-- The characters, if no half of a surrogate pair stands alone. -/
def toChars? (t : Text) : Option (List Char) := t.mapM CodePoint.toChar?

/-- The string, with U+FFFD in the place of lone surrogates. -/
def toString (t : Text) : String := String.ofList (t.map fun c => c.toChar?.getD '\uFFFD')

theorem toChars?_map_ofChar (cs : List Char) : toChars? (cs.map CodePoint.ofChar) = some cs := by
  induction cs with
  | nil => rfl
  | cons c r ih =>
    simp only [toChars?] at ih
    simp [toChars?, CodePoint.toChar?_ofChar, ih]

theorem ofString_injective {a b : String} (h : ofString a = ofString b) : a = b := by
  have ha := toChars?_map_ofChar a.toList
  have hb := toChars?_map_ofChar b.toList
  simp only [ofString] at h
  rw [h, hb] at ha
  exact String.toList_injective (Option.some.inj ha).symm

end Text

end Chip8

import Chip8.Text.CodePoint
import Chip8.Text.Hex

/-!
# Texts as bytes

A text in UTF-8, which has no bytes for halves of surrogate pairs: `Text.utf8` gives the
bytes or the first run of such halves.
-/

namespace Chip8

/-- Half of a surrogate pair. -/
def CodePoint.isSurrogate (c : CodePoint) : Bool := c.isHighSurrogate || c.isLowSurrogate

theorem CodePoint.isSurrogate_ofChar (c : Char) : (ofChar c).isSurrogate = false := by
  have h : (ofChar c).value.isValidChar := c.valid
  simp only [Nat.isValidChar] at h
  simp only [isSurrogate, isHighSurrogate, isLowSurrogate, Bool.or_eq_false_iff,
    Bool.and_eq_false_iff, decide_eq_false_iff_not]
  omega

namespace Text

/-- Neighbouring halves of surrogate pairs in a text. -/
structure SurrogateRun where
  /-- The position of the first. -/
  position : Nat
  first : CodePoint
  /-- How many more follow it. -/
  further : Nat
  deriving DecidableEq

def SurrogateRun.message (r : SurrogateRun) : String :=
  if r.further = 0 then
    "'utf-8' codec can't encode character '\\u" ++ HexCase.lower.nat 4 r.first.value
      ++ "' in position " ++ Nat.repr r.position ++ ": surrogates not allowed"
  else
    "'utf-8' codec can't encode characters in position " ++ Nat.repr r.position ++ "-"
      ++ Nat.repr (r.position + r.further) ++ ": surrogates not allowed"

/-- The first run of halves in a text. -/
def surrogateRun? (t : Text) : Option SurrogateRun :=
  match t.dropWhile (!·.isSurrogate) with
  | [] => none
  | c :: rest =>
    some ⟨(t.takeWhile (!·.isSurrogate)).length, c, (rest.takeWhile (·.isSurrogate)).length⟩

def utf8 (t : Text) : Except SurrogateRun (List UInt8) :=
  match surrogateRun? t with
  | some r => throw r
  | none => return (t.filterMap CodePoint.toChar?).flatMap String.utf8EncodeChar

theorem surrogateRun?_map_ofChar (cs : List Char) :
    surrogateRun? (cs.map CodePoint.ofChar) = none := by
  have h : (cs.map CodePoint.ofChar).dropWhile (!·.isSurrogate) = [] := by
    induction cs with
    | nil => rfl
    | cons c r ih => simp [CodePoint.isSurrogate_ofChar, ih]
  rw [surrogateRun?, h]

end Text

end Chip8

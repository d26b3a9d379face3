import Chip8.Text.CasingTable

/-!
# Lower case

Full lower-casing of a text, one code point at a time with two exceptions:

* capital dotted I becomes an i followed by a combining dot;
* capital sigma becomes final sigma at the end of a word, that is after a cased
  letter and not before one, skipping code points that `ignorableRanges` holds.
-/

namespace Chip8.Text

/-- The lower-case form of a code point that has one of a single code point. -/
def lowerSimple (c : CodePoint) : CodePoint :=
  match lowerRuns.find? fun (first, last, step, _) =>
      first ≤ c.value && c.value ≤ last && (c.value - first) % step == 0 with
  | some (_, _, _, shift) => CodePoint.ofNat (c.value + shift).toNat
  | none => c

/-- The nearest neighbour that counts is a cased letter. -/
def nextIsCased (neighbours : Text) : Bool :=
  match neighbours.dropWhile ignorableRanges.contains with
  | [] => false
  | c :: _ => casedRanges.contains c

/-- Capital sigma at the end of a word; `before` runs backwards from it. -/
def isFinalSigma (before after : Text) : Bool := nextIsCased before && !nextIsCased after

/-- The lower-case form of one code point between its neighbours. -/
def lowerAt (before : Text) (c : CodePoint) (after : Text) : Text :=
  if c.value = 0x3A3 then
    [if isFinalSigma before after then CodePoint.ofNat 0x3C2 else CodePoint.ofNat 0x3C3]
  else if c.value = 0x130 then [CodePoint.ofNat 0x69, CodePoint.ofNat 0x307]
  else [lowerSimple c]

/-- The lower-case form of what follows `before`, which runs backwards. -/
def lowerFrom (before : Text) : Text → Text
  | [] => []
  | c :: after => lowerAt before c after ++ lowerFrom (c :: before) after

def lower (t : Text) : Text := lowerFrom [] t

end Chip8.Text

import Chip8.Json.Basic
import Chip8.Number.Numeral
import Chip8.Text.Hex

/-!
# Reading JSON

* Blank, tab, newline and return may stand between tokens.
* `NaN`, `Infinity` and `-Infinity` are numbers; a number with a fraction or an exponent is
  binary64, any other is an integer of at most `Numeral.digitLimit` digits.
* A text may hold escapes of single surrogates; a high one right before a low one is one code point.
* Of two members with one key the last value counts, at the place of the first.
* At most `nestingLimit` arrays and objects may be open at a time, or another number of them
  with `parseWithin`.

Each rule takes at least one character from the input, so its length bounds the depth of the calls.
-/

namespace Chip8.Json

/-- What holds other values. -/
inductive Container where
  | array
  | object
  deriving DecidableEq

/-- The name of a container in messages. -/
def Container.name : Container → String
  | .array => "array"
  | .object => "object"

/-- Arrays and objects that may be open at a time. -/
def nestingLimit : Nat := 991

/-- Why a text is not read as a JSON value. -/
inductive ReadFault where
  | malformed
  | tooLong (digits : Nat)
  /-- An array or object opens where too many are open. -/
  | tooDeep (c : Container)
  deriving DecidableEq

/-- The message. A malformed text has none of its own. -/
def ReadFault.message : ReadFault → String
  | .malformed => ""
  | .tooLong digits => Numeral.tooLongMessage digits
  | .tooDeep c => "maximum recursion depth exceeded while decoding a JSON " ++ c.name
      ++ " from a unicode string"

/-- A value, or the reason why there is none. A rule gives its value and the input after it. -/
abbrev Reading := Except ReadFault

def isSpace (c : Char) : Bool := c = ' ' || c = '\t' || c = '\n' || c = '\r'

/-- The input after the spaces at its start. -/
def skipSpace (cs : List Char) : List Char := cs.dropWhile isSpace

/-- The code point that an escape letter stands for. -/
def escapeLetter? : Char → Option Char
  | '"' => some '"'
  | '\\' => some '\\'
  | '/' => some '/'
  | 'b' => some '\x08'
  | 'f' => some '\x0c'
  | 'n' => some '\n'
  | 'r' => some '\r'
  | 't' => some '\t'
  | _ => none

/-- The unit that four hexadecimal digits stand for. -/
def hexUnit? (a b c d : Char) : Option Nat := do
  let a ← hexDigit? a
  let b ← hexDigit? b
  let c ← hexDigit? c
  let d ← hexDigit? d
  return 4096 * a + 256 * b + 16 * c + d

/-- A text, kept backwards, with one more unit: a low surrogate joins a high one before it. -/
def pushUnit (reversed : Text) (unit : Nat) : Text :=
  let c := CodePoint.ofNat unit
  match reversed with
  | high :: rest =>
    if high.isHighSurrogate && c.isLowSurrogate then
      CodePoint.ofNat (0x10000 + (high.value - 0xD800) * 0x400 + (unit - 0xDC00)) :: rest
    else c :: high :: rest
  | [] => [c]

/-- The rest of a text after its opening mark; `reversed` holds what was read of it. -/
def readText (reversed : Text) : List Char → Reading (Text × List Char)
  | '"' :: rest => return (reversed.reverse, rest)
  | '\\' :: 'u' :: a :: b :: c :: d :: rest =>
    match hexUnit? a b c d with
    | some unit => readText (pushUnit reversed unit) rest
    | none => throw .malformed
  | '\\' :: e :: rest =>
    match escapeLetter? e with
    | some c => readText (CodePoint.ofChar c :: reversed) rest
    | none => throw .malformed
  | c :: rest =>
    if c.toNat < 0x20 || c = '\\' then throw .malformed
    else readText (CodePoint.ofChar c :: reversed) rest
  | [] => throw .malformed

/-- The ASCII digits at the start of the input, and the input after them. -/
def takeDigits (cs : List Char) : List Nat × List Char :=
  ((cs.takeWhile Char.isDigit).map (·.toNat - 48), cs.dropWhile Char.isDigit)

/-- The fraction digits of a number, if a point and a digit follow. -/
def readFraction : List Char → List Nat × List Char
  | '.' :: rest =>
    match takeDigits rest with
    | ([], _) => ([], '.' :: rest)
    | taken => taken
  | cs => ([], cs)

/-- The exponent of a number, if a mark and a digit follow. -/
def readExponent (cs : List Char) : Option Int × List Char :=
  let digitsAfter (negative : Bool) (rest : List Char) : Option Int × List Char :=
    match takeDigits rest with
    | ([], _) => (none, cs)
    | (ds, rest) =>
      let n : Int := Numeral.ofDigits ds
      (some (if negative then -n else n), rest)
  match cs with
  | e :: rest =>
    if e = 'e' || e = 'E' then
      match rest with
      | '-' :: rest => digitsAfter true rest
      | '+' :: rest => digitsAfter false rest
      | rest => digitsAfter false rest
    else (none, cs)
  | [] => (none, cs)

def readMagnitude (negative : Bool) (cs : List Char) : Reading (Json × List Char) :=
  let (whole, rest) := match cs with
    | '0' :: rest => ([0], rest)
    | cs => takeDigits cs
  if whole.isEmpty then throw .malformed
  else
    let (fraction, rest) := readFraction rest
    let (exponent, rest) := readExponent rest
    if fraction.isEmpty && exponent.isNone then
      match Numeral.ofDigits? whole with
      | .ok n => return (.int (if negative then -(n : Int) else n), rest)
      | .error _ => throw (.tooLong whole.length)
    else
      return (.float (Binary64.ofDecimal negative (Numeral.ofDigits (whole ++ fraction))
        (exponent.getD 0 - fraction.length)), rest)

/-- A number, a truth value or null. -/
def readAtom : List Char → Reading (Json × List Char)
  | 'n' :: 'u' :: 'l' :: 'l' :: rest => return (.null, rest)
  | 't' :: 'r' :: 'u' :: 'e' :: rest => return (.bool true, rest)
  | 'f' :: 'a' :: 'l' :: 's' :: 'e' :: rest => return (.bool false, rest)
  | 'N' :: 'a' :: 'N' :: rest => return (.float Binary64.nan, rest)
  | 'I' :: 'n' :: 'f' :: 'i' :: 'n' :: 'i' :: 't' :: 'y' :: rest =>
    return (.float (Binary64.infinity false), rest)
  | '-' :: 'I' :: 'n' :: 'f' :: 'i' :: 'n' :: 'i' :: 't' :: 'y' :: rest =>
    return (.float (Binary64.infinity true), rest)
  | '-' :: rest => readMagnitude true rest
  | cs => readMagnitude false cs

mutual

/-- A value at the start of the input; `room` more containers may be opened. -/
def readValue : Nat → Nat → List Char → Reading (Json × List Char)
  | 0, _, _ => throw .malformed
  | depth + 1, room, cs =>
    match cs with
    | '"' :: rest => do
      let (t, rest) ← readText [] rest
      return (.str t, rest)
    | '[' :: rest =>
      match room with
      | 0 => throw (.tooDeep .array)
      | room + 1 =>
        match skipSpace rest with
        | ']' :: rest => return (.arr [], rest)
        | rest => readItems depth room [] rest
    | '\x7b' :: rest =>
      match room with
      | 0 => throw (.tooDeep .object)
      | room + 1 =>
        match skipSpace rest with
        | '\x7d' :: rest => return (.obj [], rest)
        | rest => readMembers depth room [] rest
    | cs => readAtom cs

/-- The items of an array from one of them on; `reversed` holds those before. -/
def readItems : Nat → Nat → List Json → List Char → Reading (Json × List Char)
  | 0, _, _, _ => throw .malformed
  | depth + 1, room, reversed, cs => do
    let (v, rest) ← readValue depth room cs
    match skipSpace rest with
    | ']' :: rest => return (.arr (v :: reversed).reverse, rest)
    | ',' :: rest => readItems depth room (v :: reversed) (skipSpace rest)
    | _ => throw .malformed

/-- The members of an object from one of them on, after those read before. -/
def readMembers : Nat → Nat → List (Text × Json) → List Char → Reading (Json × List Char)
  | 0, _, _, _ => throw .malformed
  | depth + 1, room, members, cs =>
    match cs with
    | '"' :: rest => do
      let (key, rest) ← readText [] rest
      match skipSpace rest with
      | ':' :: rest => do
        let (v, rest) ← readValue depth room (skipSpace rest)
        let members := insertMember members key v
        match skipSpace rest with
        | '\x7d' :: rest => return (.obj members, rest)
        | ',' :: rest => readMembers depth room members (skipSpace rest)
        | _ => throw .malformed
      | _ => throw .malformed
    | _ => throw .malformed

end

/-- The value that a whole text stands for; `room` containers may be open at a time. -/
def parseWithin (room : Nat) (s : String) : Except ReadFault Json := do
  let cs := skipSpace s.toList
  let (v, rest) ← readValue (2 * cs.length + 2) room cs
  if (skipSpace rest).isEmpty then return v else throw .malformed

/-- The value that a whole text stands for. -/
def parse (s : String) : Except ReadFault Json := parseWithin nestingLimit s

end Chip8.Json

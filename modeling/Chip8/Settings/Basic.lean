import Chip8.Json.Copy
import Chip8.Json.Reader
import Chip8.Settings.Conversion
import Chip8.Text.Encoding

/-!
# Settings

The timing and randomness settings of a computer.

* Every field may hold any value. `Settings.create` accepts numbers above zero as rate and timer
  cycle and takes every value as it is; `Settings.assign` changes one field without a check, and
  `Settings.check` checks again.
* `Settings.ofJson` reads the four fields of an object, makes integers of rate and timer
  cycle, and then checks; other members are ignored.
* `Settings.listed` copies the fields, which needs room for what they hold.
* `Settings.stepInterval` is the time between two instructions.
-/

namespace Chip8

structure Settings where
  name : Json
  /-- Instructions a second. -/
  rate : Json
  /-- Instructions for each tick of the timers. -/
  timerCycle : Json
  seed : Json

namespace Settings

inductive Fault where
  | rate (x : Number)
  | timerCycle (x : Number)
  /-- The rate or the timer cycle is no number. -/
  | comparison (k : Json.Kind)
  | conversion (cause : ConversionFault)
  /-- The stored value is no object. -/
  | shape (k : Json.Kind)
  /-- The text has no bytes to be stored as. -/
  | encoding (cause : Text.SurrogateRun)
  /-- The stored text is not read as a value. -/
  | text (cause : Json.ReadFault)
  /-- A field holds values in values too deep to be copied. -/
  | copy (cause : Json.CopyFault)

def Fault.message : Fault → String
  | .rate x => "Invalid instruction rate " ++ x.text ++ ". Must be positive"
  | .timerCycle x => "Invalid timer cycle " ++ x.text ++ ". Must be positive"
  | .comparison k => "'<=' not supported between instances of '" ++ k.name ++ "' and 'int'"
  | .conversion cause => cause.message
  | .shape k => "'" ++ k.name ++ "' object has no attribute 'get'"
  | .encoding cause => cause.message
  | .text cause => cause.message
  | .copy cause => cause.message

/-- Two hundred instructions a second, a timer tick every second instruction, no seed. -/
def standard : Settings where
  name := .str (Text.ofString "CHIP-8")
  rate := .int 200
  timerCycle := .int 2
  seed := .null

/-- The value must be a number above zero, or else is refused. -/
def checkPositive (refusal : Number → Fault) (v : Json) : Except Fault Unit :=
  match v.number? with
  | some x => if x.nonpositive then throw (refusal x) else return ()
  | none => throw (.comparison v.kind)

/-- Rate and timer cycle must be above zero; the rate is looked at first. -/
def check (s : Settings) : Except Fault Unit := do
  checkPositive .rate s.rate
  checkPositive .timerCycle s.timerCycle

def create (name rate timerCycle seed : Json) : Except Fault Settings := do
  let s : Settings := ⟨name, rate, timerCycle, seed⟩
  s.check
  return s

inductive Assignment where
  | name (v : Json)
  | rate (v : Json)
  | timerCycle (v : Json)
  | seed (v : Json)

/-- The settings with one field changed, unchecked. -/
def assign (s : Settings) : Assignment → Settings
  | .name v => { s with name := v }
  | .rate v => { s with rate := v }
  | .timerCycle v => { s with timerCycle := v }
  | .seed v => { s with seed := v }

def nameKey : Text := Text.ofString "name"
def rateKey : Text := Text.ofString "instruction_rate"
def timerCycleKey : Text := Text.ofString "timer_cycle"
def seedKey : Text := Text.ofString "seed"

/-- The fields as the members of an object, in their order. -/
def members (s : Settings) : List (Text × Json) :=
  [(nameKey, s.name), (rateKey, s.rate), (timerCycleKey, s.timerCycle), (seedKey, s.seed)]

/-- Room for the copy of each field when settings are listed. -/
def listingRoom : Nat := 994

/-- The fields copied as the members of an object, with some room for each copy. -/
def copied (s : Settings) (room : Nat) : Except Fault (List (Text × Json)) :=
  match Json.checkItemCopies room (s.members.map (·.2)) with
  | .ok () => return s.members
  | .error cause => throw (.copy cause)

def listed (s : Settings) : Except Fault (List (Text × Json)) := s.copied listingRoom

/-- The integer of a member, or of the standard value where it is absent. -/
def integerMember (ms : List (Text × Json)) (key : Text) (absent : Json) : Except Fault Json :=
  match ((Json.member? ms key).getD absent).toInt with
  | .ok n => return .int n
  | .error cause => throw (.conversion cause)

def ofMembers (ms : List (Text × Json)) : Except Fault Settings := do
  let rate ← integerMember ms rateKey standard.rate
  let timerCycle ← integerMember ms timerCycleKey standard.timerCycle
  create ((Json.member? ms nameKey).getD standard.name) rate timerCycle
    ((Json.member? ms seedKey).getD .null)

def ofJson : Json → Except Fault Settings
  | .obj ms => ofMembers ms
  | v => throw (.shape v.kind)

/-- The rate as a number; zero stands for what is none. -/
def rateNumber (s : Settings) : Number := s.rate.number?.getD (.integer 0)

/-- Equal in all four fields, numbers by value. -/
def same (s t : Settings) : Bool :=
  s.name.same t.name && s.rate.same t.rate && s.timerCycle.same t.timerCycle
    && s.seed.same t.seed

/-- Why there is no time between two instructions. -/
inductive IntervalFault where
  /-- The rate is an integer beyond the binary64 numbers. -/
  | rateTooLarge
  | rateZero
  /-- The rate is no number. -/
  | operand (k : Json.Kind)
  deriving DecidableEq

def IntervalFault.message : IntervalFault → String
  | .rateTooLarge => "int too large to convert to float"
  | .rateZero => "float division by zero"
  | .operand k => "unsupported operand type(s) for /: 'float' and '" ++ k.name ++ "'"

def stepInterval (s : Settings) : Except IntervalFault Binary64 :=
  match s.rate.number? with
  | none => throw (.operand s.rate.kind)
  | some rate =>
    match rate.binary64? with
    | none => throw .rateTooLarge
    | some x =>
      match x.reciprocal? with
      | none => throw .rateZero
      | some y => return y

theorem checkPositive_eq_ok_iff {refusal : Number → Fault} {v : Json} :
    checkPositive refusal v = .ok () ↔ ∃ x, v.number? = some x ∧ x.nonpositive = false := by
  unfold checkPositive
  cases v.number? with
  | none => simp [throw, throwThe, MonadExceptOf.throw]
  | some x => cases h : x.nonpositive <;> simp [h, throw, throwThe, MonadExceptOf.throw, pure,
      Except.pure]

theorem check_eq_ok_iff {s : Settings} :
    s.check = .ok () ↔ (∃ x, s.rate.number? = some x ∧ x.nonpositive = false)
      ∧ ∃ x, s.timerCycle.number? = some x ∧ x.nonpositive = false := by
  rw [← @checkPositive_eq_ok_iff .rate s.rate, ← @checkPositive_eq_ok_iff .timerCycle]
  unfold check
  cases checkPositive .rate s.rate <;> simp [bind, Except.bind]

end Settings

end Chip8

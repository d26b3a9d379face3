import Chip8.Settings.Conversion
import Chip8.System.Registers

/-!
# Timers

DT and ST go down by one every `period` instructions. The machine keeps the count of
instructions since the last tick, so a reset starts it anew.
-/

namespace Chip8

/-- How often the timers tick, and whether they do. -/
structure Timers where
  period : Nat
  enabled : Bool
  period_pos : 0 < period

inductive TimerFault where
  /-- The period is zero or below. -/
  | period (n : Int)
  /-- The period is no integer. -/
  | conversion (cause : ConversionFault)

def TimerFault.message : TimerFault → String
  | .period n => "Invalid timer cycle: " ++ toString n
  | .conversion cause => cause.message

namespace Timers

def ofPeriod (period : Int) (enabled : Bool) : Except TimerFault Timers :=
  if h : 0 < period then .ok ⟨period.toNat, enabled, by omega⟩ else .error (.period period)

/-- Timers of a period given as a value. -/
def ofJson (period : Json) (enabled : Bool) : Except TimerFault Timers :=
  match period.toInt with
  | .ok n => ofPeriod n enabled
  | .error cause => .error (.conversion cause)

/-- One instruction is counted; the result says whether the timers ticked. -/
def advance (t : Timers) : Action Bool := do
  System.change fun m => { m with cycle := (m.cycle.value + 1) % (t.period : Int) }
  let m ← System.look
  if m.cycle.value ≠ 0 || !t.enabled then return false
  else
    if m.dt ≠ 0 then System.setDt ((m.dt.toNat : Int) - 1)
    let m ← System.look
    if m.st ≠ 0 then System.setSt ((m.st.toNat : Int) - 1)
    return true

end Timers

end Chip8

/-!
# Countdown timers

A countdown holds a byte that falls toward zero at a fixed rate of machine time,
however time is cut into advances.  The time since the last fall is accumulated.
An advance that brings it to the threshold takes one threshold off and lowers the
value by one, so what is left over counts toward the next fall, and one advance
never lowers the value twice.
-/

namespace Chip8

/-- A byte that falls toward zero at a fixed rate. -/
structure Countdown where
  /-- Seconds between two falls. -/
  threshold : Float
  /-- Seconds accumulated toward the next fall. -/
  elapsed : Float
  /-- The value that is left. -/
  value : UInt8
deriving Repr

namespace Countdown

/-- The number of falls per second unless another rate is asked for. -/
def defaultRate : Float := 60.0

/-- A countdown at zero that falls the given number of times per second. -/
def ofRate (rate : Float) : Countdown :=
  { threshold := 1.0 / rate, elapsed := 0.0, value := 0 }

/-- The countdown with another value and the same progress toward the next
fall. -/
def set (timer : Countdown) (value : UInt8) : Countdown :=
  { timer with value }

/-- Whether an advance by `dt` seconds brings the accumulated time to the
threshold. -/
def reaches (timer : Countdown) (dt : Float) : Bool :=
  timer.elapsed + dt ≥ timer.threshold

/-- The countdown after `dt` more seconds. -/
def advance (timer : Countdown) (dt : Float) : Countdown :=
  if timer.reaches dt then
    { timer with
      elapsed := timer.elapsed + dt - timer.threshold
      value := UInt8.ofNat (timer.value.toNat - 1) }
  else { timer with elapsed := timer.elapsed + dt }

end Countdown

end Chip8

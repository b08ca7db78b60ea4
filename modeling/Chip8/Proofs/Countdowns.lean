import Chip8.Countdown

/-!
# Countdowns

A countdown is advanced and assigned to in any order.  How much time it has accumulated
toward its next fall depends on its rate and on the lengths of the advances, and on no
value that it has or gets (`Countdown.elapsed_after`).  So the advances that reach the
threshold can be counted beforehand, and from an assignment on the value is the assigned
one less that count (`Countdown.value_after_advances`).

The laws hold for any sum, difference and comparison of times, so none of them asks
whether a length is negative or a number at all.
-/

namespace Chip8

namespace Countdown

/-! ## Histories -/

/-- What happens to a countdown. -/
inductive Event where
  | advanced (dt : Float)
  | assigned (value : UInt8)

/-- The countdown after an event. -/
def meet (timer : Countdown) : Event → Countdown
  | .advanced dt => timer.advance dt
  | .assigned value => timer.set value

/-- The countdown after one event and another. -/
def after (timer : Countdown) (events : List Event) : Countdown :=
  events.foldl meet timer

/-- The length of an event, if it takes time. -/
def Event.length? : Event → Option Float
  | .advanced dt => some dt
  | .assigned _ => none

/-- The lengths of the advances among the events. -/
def Event.lengths (events : List Event) : List Float :=
  events.filterMap Event.length?

theorem after_append (timer : Countdown) (first second : List Event) :
    timer.after (first ++ second) = (timer.after first).after second :=
  List.foldl_append

/-! ## Accumulated time -/

/-- Whether an advance brings the accumulated time to the threshold. -/
def crosses (threshold elapsed dt : Float) : Bool :=
  elapsed + dt ≥ threshold

/-- The accumulated time after an advance. -/
def carried (threshold elapsed dt : Float) : Float :=
  if crosses threshold elapsed dt then elapsed + dt - threshold else elapsed + dt

/-- The accumulated time after advances of the given lengths. -/
def progress (threshold elapsed : Float) (lengths : List Float) : Float :=
  lengths.foldl (carried threshold) elapsed

/-- How many of the advances bring the accumulated time to the threshold. -/
def crossings (threshold elapsed : Float) : List Float → Nat
  | [] => 0
  | dt :: rest =>
      (crosses threshold elapsed dt).toNat +
        crossings threshold (carried threshold elapsed dt) rest

/-! ## One advance -/

theorem threshold_advance (timer : Countdown) (dt : Float) :
    (timer.advance dt).threshold = timer.threshold := by
  rw [advance]
  split <;> rfl

theorem elapsed_advance (timer : Countdown) (dt : Float) :
    (timer.advance dt).elapsed = carried timer.threshold timer.elapsed dt := by
  show _ = if timer.reaches dt then _ else _
  rw [advance]
  split <;> rfl

/-- An advance lowers the value by one if it reaches the threshold, though not below
zero. -/
theorem value_advance (timer : Countdown) (dt : Float) :
    (timer.advance dt).value.toNat =
      timer.value.toNat - (crosses timer.threshold timer.elapsed dt).toNat := by
  have bound := timer.value.toNat_lt
  show _ = timer.value.toNat - (timer.reaches dt).toNat
  rw [advance]
  cases timer.reaches dt with
  | false => rfl
  | true =>
      show (UInt8.ofNat (timer.value.toNat - 1)).toNat = timer.value.toNat - 1
      rw [UInt8.toNat_ofNat']
      omega

/-! ## One event after another -/

theorem threshold_after (timer : Countdown) (events : List Event) :
    (timer.after events).threshold = timer.threshold := by
  induction events generalizing timer with
  | nil => rfl
  | cons event rest induction =>
      rw [after, List.foldl_cons]
      cases event with
      | advanced dt => exact (induction (timer.advance dt)).trans (timer.threshold_advance dt)
      | assigned value => exact induction (timer.set value)

/-- The accumulated time is a matter of the threshold and the lengths, not of values. -/
theorem elapsed_after (timer : Countdown) (events : List Event) :
    (timer.after events).elapsed =
      progress timer.threshold timer.elapsed (Event.lengths events) := by
  induction events generalizing timer with
  | nil => rfl
  | cons event rest induction =>
      rw [after, List.foldl_cons]
      cases event with
      | advanced dt =>
          have later := induction (timer.advance dt)
          rw [threshold_advance, elapsed_advance] at later
          exact later
      | assigned value => exact induction (timer.set value)

/-- While nothing is assigned, the value falls by the number of crossings, though not
below zero. -/
theorem value_after_advances (timer : Countdown) (lengths : List Float) :
    (timer.after (lengths.map .advanced)).value.toNat =
      timer.value.toNat - crossings timer.threshold timer.elapsed lengths := by
  induction lengths generalizing timer with
  | nil => rfl
  | cons dt rest induction =>
      have later := induction (timer.advance dt)
      rw [threshold_advance, elapsed_advance, value_advance, Nat.sub_sub] at later
      exact later

/-- The state of a countdown with the given rate and history. -/
structure Counts (timer : Countdown) (rate : Float) (events : List Event) : Prop where
  threshold : timer.threshold = 1.0 / rate
  elapsed : timer.elapsed = progress (1.0 / rate) 0.0 (Event.lengths events)
  falls : ∀ dt, (timer.advance dt).value.toNat =
    if timer.elapsed + dt ≥ 1.0 / rate then timer.value.toNat - 1 else timer.value.toNat
  assigned : ∀ earlier value (lengths : List Float),
    events = earlier ++ .assigned value :: lengths.map .advanced →
      timer.value.toNat = value.toNat -
        crossings (1.0 / rate) (progress (1.0 / rate) 0.0 (Event.lengths earlier)) lengths
  unassigned : ∀ lengths : List Float, events = lengths.map .advanced → timer.value = 0

theorem counts_after (rate : Float) (events : List Event) :
    ((ofRate rate).after events).Counts rate events where
  threshold := threshold_after _ events
  elapsed := elapsed_after _ events
  falls dt := by
    rw [value_advance, threshold_after, crosses]
    show _ - (decide (_ ≥ 1.0 / rate)).toNat = _
    split
    · next reached => rw [decide_eq_true reached, Bool.toNat_true]
    · next short => rw [decide_eq_false short, Bool.toNat_false, Nat.sub_zero]
  assigned earlier value lengths happened := by
    have fallen := value_after_advances (((ofRate rate).after earlier).set value) lengths
    have since : (ofRate rate).after events =
        (((ofRate rate).after earlier).set value).after (lengths.map .advanced) := by
      rw [happened, after_append]
      rfl
    rw [since, fallen]
    show _ - crossings ((ofRate rate).after earlier).threshold
      ((ofRate rate).after earlier).elapsed lengths = _
    rw [threshold_after, elapsed_after]
    rfl
  unassigned lengths happened := by
    have fallen := value_after_advances (ofRate rate) lengths
    have zero : (ofRate rate).value.toNat = 0 := rfl
    rw [happened]
    apply UInt8.toNat_inj.mp
    rw [fallen, zero, Nat.zero_sub]
    rfl

end Countdown

end Chip8

/-!
# Controls

A control is what a player can ask of a session: a key of the keypad, leaving,
pausing or a single step.  Controls arrive in batches, one for each frame.
-/

namespace Chip8

/-- What a player can ask of a session. -/
inductive Control where
  /-- A key of the keypad, if the keypad has one with that number. -/
  | key (number : UInt8)
  /-- Leave the session. -/
  | quit
  /-- Pause, or go on after a pause. -/
  | pause
  /-- Execute one tick and stay paused. -/
  | step
deriving Repr, DecidableEq

/-- The controls that arrive during one frame, in their order. -/
abbrev Batch := List Control

/-- Batches that are known beforehand. -/
structure Script where
  /-- The batches that are still to come. -/
  batches : List Batch
deriving Repr, DecidableEq

/-- Hand out one batch, which is empty once the script is over. -/
def Script.poll (script : Script) : Batch × Script :=
  match script.batches with
  | [] => ([], script)
  | batch :: rest => (batch, ⟨rest⟩)

end Chip8

import Chip8.Console.Control
import Chip8.Machine.Basic

/-!
# Holding keys

A terminal reports that a key was struck but not that it was let go.  So a struck
key is held down for a number of frames after the latest report, and then let go.
Each key has a count of the frames that are left.  A new batch lowers every count
by one, sets the counts of the keys it names, and the keys with a count above
zero are down.
-/

namespace Chip8

/-- How long each key stays down. -/
structure KeyHold where
  /-- The frames for which a struck key is down. -/
  frames : Nat
  /-- The frames that are left for each key. -/
  remaining : Vector Nat 16
deriving Repr, DecidableEq

namespace KeyHold

/-- No key is held, and a struck key will be for the given number of frames. -/
def ofFrames (frames : Nat) : KeyHold :=
  { frames, remaining := Vector.replicate 16 0 }

/-- Every count lowered by one. -/
def age (hold : KeyHold) : KeyHold :=
  { hold with remaining := hold.remaining.map (· - 1) }

/-- The count of a struck key set; other controls change nothing. -/
def strike (hold : KeyHold) : Control → KeyHold
  | .key number =>
      { hold with remaining := hold.remaining.setIfInBounds number.toNat hold.frames }
  | _ => hold

/-- The counts after one more batch. -/
def update (hold : KeyHold) (batch : Batch) : KeyHold :=
  batch.foldl strike hold.age

/-- The keys that are held. -/
def keypad (hold : KeyHold) : Keypad :=
  hold.remaining.map (0 < ·)

/-- The machine with exactly the held keys down. -/
def holdOn (hold : KeyHold) (machine : Machine) : Machine :=
  { machine with keys := hold.keypad }

end KeyHold

end Chip8

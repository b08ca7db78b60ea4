/-!
# Configuration

A configuration fixes the shape of a machine before it is built: its screen, its
memory, where the program and the font lie, how many instructions belong to a
tick and how many ticks to a frame.
-/

namespace Chip8

/-- The shape of a machine. -/
structure Config where
  /-- Columns of the screen. -/
  width : Nat := 64
  /-- Rows of the screen. -/
  height : Nat := 32
  /-- Coordinates outside the screen come back in on the other side. -/
  wraps : Bool := false
  /-- Bytes of memory. -/
  memorySize : Nat := 4096
  /-- Where a program is loaded and begins. -/
  start : UInt16 := 0x200
  /-- Where the font is loaded. -/
  fontStart : UInt16 := 0x000
  /-- Instructions of a tick. -/
  instructionsPerTick : Nat := 1
  /-- Ticks of a frame. -/
  ticksPerFrame : Nat := 20
  /-- Frames of a second. -/
  framesPerSecond : Nat := 30
  /-- The seed of the random bytes, if they are to be repeatable. -/
  seed : Option UInt64 := none
deriving Repr, DecidableEq

namespace Config

/-- A machine with the usual screen, memory and speed. -/
def standard : Config := {}

/-- The number of ticks in a second, which is never zero.  A word of 64 bits holds it, so
a product that is too large wraps; `Guarded.tickSeconds` refuses one. -/
def ticksPerSecond (config : Config) : Nat :=
  max (config.ticksPerFrame * config.framesPerSecond % 0x10000000000000000) 1

/-- The seconds that one tick takes. -/
def tickSeconds (config : Config) : Float :=
  1.0 / config.ticksPerSecond.toUInt64.toFloat

end Config

end Chip8

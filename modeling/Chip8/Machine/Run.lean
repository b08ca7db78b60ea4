import Chip8.Machine.Execute

/-!
# Running a machine

A tick lets time pass for the timers and then executes some instructions.  A
machine that waits for a key executes none until a key is down.  Then the lowest
key goes into the waiting register, the program moves on, and the same tick
executes what follows.  A frame is a number of ticks of equal length.  A fault
ends a tick and a frame at once, and the machine stays where the fault arose.
-/

namespace Chip8.Machine

/-! ## Waiting for a key -/

/-- The machine without its wait, unless it waits and no key is down. -/
def awaken? (machine : Machine) : Option Machine :=
  match machine.waiting with
  | none => some machine
  | some x =>
      machine.lowestKey?.map fun key =>
        ({ machine with waiting := none }.setRegister x (UInt8.ofNat key)).next

/-! ## Ticks -/

/-- Execute up to a number of instructions. -/
def burst : Nat → Machine → Outcome
  | 0, machine => ⟨machine, none⟩
  | count + 1, machine =>
      match machine.awaken? with
      | none => ⟨machine, none⟩
      | some awake =>
          match awake.execute with
          | ⟨after, none⟩ => burst count after
          | ⟨after, some fault⟩ => ⟨after, some fault⟩

/-- Let `dt` seconds pass and execute the instructions of one tick. -/
def tick (machine : Machine) (dt : Float) : Outcome :=
  burst machine.config.instructionsPerTick (machine.advanceTimers dt)

/-- Up to a number of ticks of equal length. -/
def ticks (dt : Float) : Nat → Machine → Outcome
  | 0, machine => ⟨machine, none⟩
  | count + 1, machine =>
      match machine.tick dt with
      | ⟨after, none⟩ => ticks dt count after
      | ⟨after, some fault⟩ => ⟨after, some fault⟩

/-- The ticks of one frame. -/
def frame (machine : Machine) : Outcome :=
  ticks machine.config.tickSeconds machine.config.ticksPerFrame machine

end Chip8.Machine

import Chip8.Console.Canvas
import Chip8.Console.KeyHold
import Chip8.Machine.Run

/-!
# Sessions

A session runs a machine frame by frame under the controls of a player.  A frame
begins with a batch of controls.  The keys of the batch go to the machine, and
every pause control turns the pause on or off.  Then exactly one of four things
happens.  A batch that leaves ends the session without a tick or a picture.  A
batch that steps runs one tick and stays paused.  A paused session runs nothing.
Otherwise the ticks of a frame run.  Unless the session ended, a picture follows.

A breakpoint at the program counter pauses the session before a tick starts
there, but not before the first tick of a frame, since that is where a session
goes on after it was paused.

The pacer that holds frames to a rate stands outside.  It sleeps between a picture
and the next batch, so it decides when a picture is seen and never which one.
Machine time passes by the length of a tick and not by a clock.
-/

namespace Chip8

/-! ## Frames with breakpoints -/

/-- How a frame's ticks came to an end. -/
inductive Stretch where
  /-- All ticks have run. -/
  | finished (machine : Machine)
  /-- The next tick would start at a breakpoint. -/
  | stopped (machine : Machine)
  /-- A tick failed. -/
  | failed (machine : Machine) (fault : Fault)

namespace Stretch

/-- Up to a number of ticks, none of which starts at a breakpoint. -/
def further (dt : Float) : Nat → Machine → Stretch
  | 0, machine => .finished machine
  | count + 1, machine =>
      if machine.breakpointHere?.isSome then .stopped machine
      else
        match machine.tick dt with
        | ⟨after, none⟩ => further dt count after
        | ⟨after, some fault⟩ => .failed after fault

/-- Up to a number of ticks, of which only the first may start at a breakpoint. -/
def ofTicks (dt : Float) (count : Nat) (machine : Machine) : Stretch :=
  match count with
  | 0 => .finished machine
  | count + 1 =>
      match machine.tick dt with
      | ⟨after, none⟩ => further dt count after
      | ⟨after, some fault⟩ => .failed after fault

end Stretch

/-! ## Captions -/

/-- The line above the screen: the name of the program, and whether it is paused
and sounds. -/
def caption (name : String) (paused sounds : Bool) : String :=
  "CHIP-8: " ++ name ++ (if paused then " (PAUSED)" else "") ++ (if sounds then " *BEEP*" else "")

/-! ## Sessions -/

/-- A machine under the controls of a player. -/
structure Session where
  /-- The machine. -/
  machine : Machine
  /-- How long each key stays down. -/
  hold : KeyHold
  /-- Whether frames run no ticks. -/
  paused : Bool
  /-- The name of the program. -/
  name : String

namespace Session

/-- The frames for which a struck key is down. -/
def holdFrames : Nat := 6

/-- A session that is about to start, with no key held. -/
def start (machine : Machine) (name : String) (paused : Bool) : Session :=
  { machine, name, paused, hold := KeyHold.ofFrames holdFrames }

/-- What a player sees of the session. -/
def picture (session : Session) : Picture :=
  { screen := session.machine.screen
    caption := caption session.name session.paused (0 < session.machine.sound.value) }

/-- Whether a session is paused after the pause controls of a batch. -/
def pausedAfter (paused : Bool) : Batch → Bool
  | [] => paused
  | .pause :: rest => pausedAfter (!paused) rest
  | _ :: rest => pausedAfter paused rest

/-- The session after the keys and the pause controls of a batch. -/
def receive (session : Session) (batch : Batch) : Session :=
  let hold := session.hold.update batch
  { session with
    hold
    machine := hold.holdOn session.machine
    paused := pausedAfter session.paused batch }

/-- What one batch leads to. -/
inductive Turn where
  /-- The player left. -/
  | left (session : Session)
  /-- A tick failed. -/
  | failed (session : Session) (fault : Fault)
  /-- A picture was shown. -/
  | shown (session : Session)

/-- Run a single tick and stay paused. -/
def stepOnce (session : Session) : Turn :=
  match session.machine.tick session.machine.config.tickSeconds with
  | ⟨machine, none⟩ => .shown { session with machine, paused := true }
  | ⟨machine, some fault⟩ => .failed { session with machine, paused := true } fault

/-- Run the ticks of a frame and pause at a breakpoint. -/
def runFrame (session : Session) : Turn :=
  let config := session.machine.config
  match Stretch.ofTicks config.tickSeconds config.ticksPerFrame session.machine with
  | .finished machine => .shown { session with machine }
  | .stopped machine => .shown { session with machine, paused := true }
  | .failed machine fault => .failed { session with machine } fault

/-- Play one frame. -/
def turn (session : Session) (batch : Batch) : Turn :=
  let ready := session.receive batch
  if .quit ∈ batch then .left ready
  else if .step ∈ batch then ready.stepOnce
  else if ready.paused then .shown ready
  else ready.runFrame

/-! ## Runs -/

/-- Why a run came to its end. -/
inductive Ending where
  /-- The player left. -/
  | quit
  /-- A tick failed. -/
  | failed (fault : Fault)
  /-- There were no more batches. -/
  | starved
deriving Repr, DecidableEq

/-- A session from a start to an end. -/
structure Run where
  /-- The session at the end. -/
  session : Session
  /-- The pictures that were shown, the first one first. -/
  pictures : List Picture
  /-- Why it ended. -/
  ending : Ending

/-- Play one frame for each batch until the session ends. -/
def run (session : Session) : List Batch → Run
  | [] => ⟨session, [], .starved⟩
  | batch :: rest =>
      match session.turn batch with
      | .left after => ⟨after, [], .quit⟩
      | .failed after fault => ⟨after, [], .failed fault⟩
      | .shown after =>
          let later := after.run rest
          { later with pictures := after.picture :: later.pictures }

end Session

end Chip8

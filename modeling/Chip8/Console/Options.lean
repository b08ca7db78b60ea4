import Chip8.Console.CommandLine.Progress
import Chip8.Machine.Config

/-!
# Options

The options are what a command line asks for: the program file and how to run it.
What was not asked for is as in the standard configuration.
-/

namespace Chip8

/-- What a command line asks for. -/
structure Options where
  /-- The program file. -/
  program : String
  /-- Whether to begin with a pause. -/
  startPaused : Bool
  /-- Whether the screen wraps. -/
  wrap : Bool
  /-- Frames of a second. -/
  framesPerSecond : Nat
  /-- Ticks of a frame. -/
  ticksPerFrame : Nat
  /-- The seed of the random bytes. -/
  seed? : Option Nat
  /-- The addresses of the breakpoints, in their order. -/
  breakpoints : List UInt16
deriving Repr, DecidableEq

namespace Options

/-- What was read, if it names a program file. -/
def ofProgress (progress : CommandLine.Progress) : Except CommandLine.UsageFault Options :=
  match progress.program? with
  | none => .error .missingProgram
  | some program =>
      .ok
        { program
          startPaused := progress.startPaused
          wrap := progress.wrap
          framesPerSecond := progress.framesPerSecond?.getD Config.standard.framesPerSecond
          ticksPerFrame := progress.ticksPerFrame?.getD Config.standard.ticksPerFrame
          seed? := progress.seed?
          breakpoints := progress.breakpoints }

/-- The configuration of the machine that is asked for. -/
def config (options : Options) : Config :=
  { wraps := options.wrap
    framesPerSecond := options.framesPerSecond
    ticksPerFrame := options.ticksPerFrame
    seed := options.seed?.map UInt64.ofNat }

end Options

/-- What the arguments ask for. -/
def CommandLine.read (arguments : List String) : Except CommandLine.UsageFault Options := do
  Options.ofProgress (← CommandLine.Progress.takeAll {} arguments)

end Chip8

import Chip8.Console.CommandLine.Argument
import Chip8.Console.CommandLine.Usage

/-!
# Reading arguments

Arguments are read from the left, and the first fault counts.  A value may be
attached to its setting or follow as the next argument.

A value that follows its setting, and the program file, stay open until the next
argument that the reader recognizes, because only then is it certain that they
are complete.  So an argument that is not recognized at all is reported before a
bad value in front of it, and every other argument after it.
-/

namespace Chip8.CommandLine

/-- An argument that may not be complete. -/
inductive Pending where
  /-- Nothing is open. -/
  | none
  /-- A setting, with its value once that has come. -/
  | setting (setting : Setting) (value? : Option String)
  /-- The name of the program file. -/
  | program (path : String)
deriving Repr, DecidableEq

/-- What was read so far. -/
structure Progress where
  /-- The program file. -/
  program? : Option String := none
  /-- Whether to begin with a pause. -/
  startPaused : Bool := false
  /-- Whether the screen wraps. -/
  wrap : Bool := false
  /-- Frames of a second. -/
  framesPerSecond? : Option Nat := none
  /-- Ticks of a frame. -/
  ticksPerFrame? : Option Nat := none
  /-- The seed of the random bytes. -/
  seed? : Option Nat := none
  /-- The addresses of the breakpoints, in their order. -/
  breakpoints : List UInt16 := []
  /-- The argument that is still open. -/
  pending : Pending := .none
deriving Repr, DecidableEq

/-- A number of 64 bits in decimal digits that was not given before. -/
def readNumber (earlier? : Option Nat) (value : String) : Except UsageFault (Option Nat) :=
  match earlier? with
  | some _ => .error .repeated
  | none =>
      match Numeral.read 10 0xFFFFFFFFFFFFFFFF value.toList with
      | .ok number => .ok (some number)
      | .error cause => .error (.number cause)

namespace Progress

/-- Take the value of a setting. -/
def store (progress : Progress) (setting : Setting) (value : String) :
    Except UsageFault Progress :=
  match setting with
  | .framesPerSecond => do
      return { progress with
        framesPerSecond? := ← readNumber progress.framesPerSecond? value }
  | .ticksPerFrame => do
      return { progress with ticksPerFrame? := ← readNumber progress.ticksPerFrame? value }
  | .seed => do
      return { progress with seed? := ← readNumber progress.seed? value }
  | .breakpoint =>
      match Address.read value with
      | .ok address => .ok { progress with breakpoints := progress.breakpoints ++ [address] }
      | .error fault => .error (.address fault)

/-- Close the argument that is open. -/
def settle (progress : Progress) : Except UsageFault Progress :=
  let closed := { progress with pending := .none }
  match progress.pending with
  | .none => .ok closed
  | .setting _ none => .error .missingValue
  | .setting setting (some value) => closed.store setting value
  | .program "" => .error .missingValue
  | .program path => .ok { closed with program? := some path }

/-- Whether a program file was named, be it open or closed. -/
def namesProgram (progress : Progress) : Bool :=
  match progress.pending with
  | .program _ => true
  | _ => progress.program?.isSome

/-- Turn on a switch. -/
def turnOn (progress : Progress) (switch : Switch) : Except UsageFault Progress := do
  let settled ← progress.settle
  match switch with
  | .help => .error .help
  | .version => .error .version
  | .startPaused =>
      if settled.startPaused then .error .repeated else .ok { settled with startPaused := true }
  | .wrap =>
      if settled.wrap then .error .repeated else .ok { settled with wrap := true }

/-- Take a plain argument that is no value. -/
def takePlain (progress : Progress) (text : String) : Except UsageFault Progress :=
  if progress.namesProgram then .error .unknownArgument
  else do return { ← progress.settle with pending := .program text }

/-- Take a setting, with its value if that is attached. -/
def takeSetting (progress : Progress) (setting : Setting) (value? : Option String) :
    Except UsageFault Progress := do
  let settled ← progress.settle
  match value? with
  | some value => settled.store setting value
  | none => return { settled with pending := .setting setting none }

/-- Take an argument other than the terminator. -/
def take (progress : Progress) (argument : Argument) : Except UsageFault Progress :=
  match argument with
  | .terminator => .ok progress
  | .long name value? =>
      match Setting.ofName? name, Switch.ofName? name, value? with
      | some setting, _, _ => progress.takeSetting setting value?
      | none, some switch, none => progress.turnOn switch
      | none, some _, some _ => .error .surplusValue
      | none, none, _ => .error .unknownArgument
  | .short letter =>
      match Switch.ofLetter? letter with
      | some switch => progress.turnOn switch
      | none => .error .unknownArgument
  | .plain text =>
      match progress.pending with
      | .setting setting none =>
          .ok { progress with pending := .setting setting (some text) }
      | _ => progress.takePlain text

/-- Take arguments that are all plain. -/
def takeAllPlain (progress : Progress) : List String → Except UsageFault Progress
  | [] => progress.settle
  | text :: rest => do (← progress.takePlain text).takeAllPlain rest

/-- Take arguments up to the end. -/
def takeAll (progress : Progress) : List String → Except UsageFault Progress
  | [] => progress.settle
  | text :: rest =>
      match Argument.ofString text with
      | .terminator => progress.takeAllPlain rest
      | argument => do (← progress.take argument).takeAll rest

end Progress

end Chip8.CommandLine

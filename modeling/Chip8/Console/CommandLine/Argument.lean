/-!
# Arguments

An argument is told from others by the dashes in front of it.  Two dashes begin a
long name, to which a value may be attached by an equals sign.  One dash begins
letters, of which the first decides.  Two dashes alone end everything but plain
arguments, and one dash alone is plain.

A name belongs to a switch, which needs no value, or to a setting, which does.
Names are told apart by case and are never cut short.
-/

namespace Chip8.CommandLine

/-! ## Shapes -/

/-- The shape of an argument. -/
inductive Argument where
  /-- The end of everything but plain arguments. -/
  | terminator
  /-- Two dashes, a name, and a value behind an equals sign. -/
  | long (name : String) (value? : Option String)
  /-- A dash and at least one letter. -/
  | short (letter : Char)
  /-- Anything else. -/
  | plain (text : String)
deriving Repr, DecidableEq

/-- What follows the first equals sign, if there is one. -/
def attached? : List Char → Option (List Char)
  | [] => none
  | c :: rest => if c = '=' then some rest else attached? rest

/-- The shape of an argument. -/
def Argument.ofString (text : String) : Argument :=
  match text.toList with
  | ['-', '-'] => .terminator
  | '-' :: '-' :: rest =>
      .long (String.ofList (rest.takeWhile (· ≠ '='))) ((attached? rest).map String.ofList)
  | '-' :: letter :: _ => .short letter
  | _ => .plain text

/-! ## Names -/

/-- What needs no value. -/
inductive Switch where
  /-- Begin with a pause. -/
  | startPaused
  /-- Sprites come back in on the other side of the screen. -/
  | wrap
  /-- Show how the command line is written. -/
  | help
  /-- Show the version. -/
  | version
deriving Repr, DecidableEq

/-- What needs a value. -/
inductive Setting where
  /-- Frames of a second. -/
  | framesPerSecond
  /-- Ticks of a frame. -/
  | ticksPerFrame
  /-- The seed of the random bytes. -/
  | seed
  /-- The address of a breakpoint. -/
  | breakpoint
deriving Repr, DecidableEq

/-- The switch with a long name. -/
def Switch.ofName? : String → Option Switch
  | "start-paused" => some .startPaused
  | "wrap" => some .wrap
  | "help" => some .help
  | "version" => some .version
  | _ => none

/-- The switch with a letter. -/
def Switch.ofLetter? : Char → Option Switch
  | 'h' => some .help
  | 'V' => some .version
  | _ => none

/-- The setting with a long name. -/
def Setting.ofName? : String → Option Setting
  | "fps" => some .framesPerSecond
  | "instructions-per-frame" => some .ticksPerFrame
  | "seed" => some .seed
  | "break" => some .breakpoint
  | _ => none

end Chip8.CommandLine

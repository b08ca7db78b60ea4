import Chip8.Console.Address

/-!
# Usage faults

A usage fault says why a command line does not lead to a session.  Two of them
are no mistakes: the player asked for a text instead.
-/

namespace Chip8.CommandLine

/-- Why a command line does not lead to a session. -/
inductive UsageFault where
  /-- Nothing is known by this name, or one plain argument is too many. -/
  | unknownArgument
  /-- What may come once came twice. -/
  | repeated
  /-- A setting has no value, or the name of the program file is empty. -/
  | missingValue
  /-- A switch has a value. -/
  | surplusValue
  /-- A value is no number. -/
  | number (cause : Numeral.Fault)
  /-- A value is no address. -/
  | address (fault : AddressFault)
  /-- No program file was named. -/
  | missingProgram
  /-- The player asked how the command line is written. -/
  | help
  /-- The player asked for the version. -/
  | version
deriving Repr, DecidableEq

/-- What is wrong with a value, in words; empty for all other faults. -/
def UsageFault.valueMessage : UsageFault → String
  | .number cause => cause.message
  | .address fault => fault.message
  | _ => ""

/-- How the command line is written. -/
def usage : String :=
  "usage: [--start-paused] [--wrap] [--fps N] [--instructions-per-frame N] [--seed N] " ++
    "[--break ADDRESS]... ROM\n"

/-- The fault in words. -/
def UsageFault.message (fault : UsageFault) : String :=
  match fault with
  | .unknownArgument => "unexpected argument"
  | .repeated => "an argument cannot be used multiple times"
  | .missingValue => "a value is required"
  | .surplusValue => "unexpected value"
  | .number _ | .address _ => "invalid value: " ++ fault.valueMessage
  | .missingProgram => "no program file was named"
  | .help => usage
  | .version => "0.1.0\n"

/-- Whether the player asked for a text rather than for a session. -/
def UsageFault.isRequest : UsageFault → Bool
  | .help | .version => true
  | _ => false

end Chip8.CommandLine

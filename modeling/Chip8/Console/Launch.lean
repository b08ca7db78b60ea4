import Chip8.Console.Keystream
import Chip8.Console.Options
import Chip8.Console.Session

/-!
# Launch

Launching builds the machine that the options ask for, opens the program file,
loads it and puts in the breakpoints.  A file that is not there cannot be opened.
A directory can be opened but not read, so its failure comes from loading.
-/

namespace Chip8

/-- What a path leads to. -/
inductive ProgramFile where
  /-- Nothing. -/
  | missing
  /-- A directory. -/
  | directory
  /-- A file with the given bytes. -/
  | file (bytes : List UInt8)
  /-- Something that cannot be opened for the given reason. -/
  | closed (reason : String)

/-- Why a launch failed. -/
inductive LaunchFault where
  /-- The program file could not be opened. -/
  | notOpened (failure : ReadFailure)
  /-- The machine refused. -/
  | refused (fault : Fault)
deriving Repr, DecidableEq

/-- The fault as a record. -/
def LaunchFault.record : LaunchFault → String
  | .notOpened failure => failure.record
  | .refused fault => fault.record

/-- What a launch that failed writes before the program ends. -/
def LaunchFault.report (fault : LaunchFault) : String :=
  "Error: " ++ fault.record ++ "\n"

/-- The name of the last part of a path, empty if that is no name. -/
def fileName (path : String) : String :=
  match ((path.splitOn "/").filter fun part => part ≠ "" && part ≠ ".").getLast? with
  | none => ""
  | some ".." => ""
  | some name => name

namespace ProgramFile

/-- The bytes of an opened file, or why there is none. -/
def opened (file : ProgramFile) : Except LaunchFault Machine.ProgramSource :=
  match file with
  | .missing => .error (.notOpened .missing)
  | .directory => .ok { bytes := [], failure := some .directory }
  | .file bytes => .ok { bytes, failure := none }
  | .closed reason => .error (.notOpened (.other reason))

end ProgramFile

/-- The machine's answer as the answer of a launch. -/
def LaunchFault.ofFault {α : Type} : Except Fault α → Except LaunchFault α
  | .ok value => .ok value
  | .error fault => .error (.refused fault)

/-- The session that the options ask for, with the given entropy for random bytes
without a seed. -/
def launch (options : Options) (entropy : UInt64) (file : ProgramFile) :
    Except LaunchFault Session := do
  let machine ← LaunchFault.ofFault (Machine.boot options.config entropy)
  let source ← file.opened
  let (loaded, _) ← LaunchFault.ofFault (machine.loadProgram source)
  let ready := options.breakpoints.foldl
    (fun machine address => machine.addBreakpoint (Breakpoint.ofAddress address none)) loaded
  return Session.start ready (fileName options.program) options.startPaused

end Chip8

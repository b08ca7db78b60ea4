import Chip8.Console.KeyBindings
import Chip8.Console.Launch
import Chip8.Machine.Snapshot

/-!
# The command

The command runs a program file in a terminal.  Each line of standard input is
the batch of controls of one frame, and each picture is written to standard
output as text.  The end of the input leaves the session.
-/

namespace Chip8.Command

/-- What the path of a program file leads to. -/
def openProgram (path : String) : IO ProgramFile := do
  try
    let bytes ← IO.FS.readBinFile path
    return .file bytes.toList
  catch failure =>
    match failure with
    | .noFileOrDirectory .. => return .missing
    | .inappropriateType .. => return .directory
    | other => return .closed (toString other)

/-- A number that nobody can foresee. -/
def drawEntropy : IO UInt64 := do
  let bytes ← IO.getRandomBytes 8
  return bytes.toList.foldl (fun value byte => value * 256 + byte.toUInt64) 0

/-- Write why a session broke off, and the state that it was left in. -/
def reportFailure (session : Session) (fault : Fault) : IO Unit := do
  IO.eprint ("error: " ++ fault.message ++ "\n")
  IO.eprint session.machine.snapshot.report
  IO.eprint (LaunchFault.refused fault).report

/-- Play frames until the session ends. -/
partial def play (input : IO.FS.Stream) (session : Session) : IO UInt32 := do
  let line ← input.getLine
  let batch := if line.isEmpty then [.quit] else KeyBindings.standard.batch line
  match session.turn batch with
  | .left _ => return 0
  | .failed after fault =>
      reportFailure after fault
      return 1
  | .shown after =>
      IO.print after.picture.text
      play input after

/-- Launch a session and play it. -/
def runOptions (options : Options) : IO UInt32 := do
  match launch options (← drawEntropy) (← openProgram options.program) with
  | .error fault =>
      IO.eprint fault.report
      return 1
  | .ok session => play (← IO.getStdin) session

end Chip8.Command

/-- Run the command with the given arguments. -/
def main (arguments : List String) : IO UInt32 := do
  match Chip8.CommandLine.read arguments with
  | .error fault =>
      if fault.isRequest then
        IO.print fault.message
        return 0
      else
        IO.eprint ("error: " ++ fault.message ++ "\n")
        return 2
  | .ok options => Chip8.Command.runOptions options

import Chip8.Main
import Chip8.Instruction.Buffer
import Chip8.Instruction.Codec
import Chip8.Instruction.Edit
import Chip8.Proofs.Pixels
import Chip8.Proofs.Sprites
import Chip8.Proofs.Bytes
import Chip8.Proofs.OperationWords
import Chip8.Proofs.Registers
import Chip8.Proofs.InstructionTable
import Chip8.Proofs.Failures
import Chip8.Proofs.Fixtures
import Chip8.Proofs.Overruns
import Chip8.Proofs.Histories
import Chip8.Proofs.KeyWait
import Chip8.Proofs.Subroutines
import Chip8.Proofs.Frames
import Chip8.Proofs.Course
import Chip8.Proofs.Deeds
import Chip8.Proofs.ProgramCounter
import Chip8.Proofs.Sources
import Chip8.Proofs.Lockstep
import Chip8.Proofs.Pacing
import Chip8.Proofs.GuardedSteps
import Chip8.Proofs.GuardedRuns
import Chip8.Proofs.Redraws
import Chip8.Proofs.Clipping
import Chip8.Proofs.HeldKeys
import Chip8.Proofs.Edits
import Chip8.Proofs.Buffers
import Chip8.Proofs.Glyphs
import Chip8.Proofs.Programs
import Chip8.Proofs.Cells
import Chip8.Proofs.Countdowns
import Chip8.Proofs.Timers
import Chip8.Proofs.Accesses
import Chip8.Proofs.Changes
import Chip8.Proofs.Moves
import Chip8.Proofs.Spills
import Chip8.Proofs.RandomBytes
import Chip8.Proofs.Numerals
import Chip8.Proofs.Addresses
import Chip8.Proofs.Reports
import Chip8.Proofs.Positions
import Chip8.Proofs.BreakpointTables
import Chip8.Proofs.Bindings
import Chip8.Proofs.Atomicity

import Chip8.Instruction.Layout
import Chip8.Text.Hex

/-!
# Faults

A fault says why an operation was refused.  It carries the values that a reader
needs to find the cause, and its wording is made here and nowhere else.  A fault
has two texts: the message is a sentence, and the record names the fault and
lists its values.
-/

namespace Chip8

/-! ## Sources that cannot be read -/

/-- Why the bytes of a program could not be read. -/
inductive ReadFailure where
  /-- There is no file at the path. -/
  | missing
  /-- The path leads to a directory. -/
  | directory
  /-- The source gave up with a reason of its own. -/
  | other (reason : String)
deriving Repr, DecidableEq

namespace ReadFailure

/-- The failure in words. -/
def message : ReadFailure → String
  | .missing => "No such file or directory (os error 2)"
  | .directory => "Is a directory (os error 21)"
  | .other reason => reason

/-- The failure as a record. -/
def record : ReadFailure → String
  | .missing =>
      "Os \x7b code: 2, kind: NotFound, message: \"No such file or directory\" \x7d"
  | .directory =>
      "Os \x7b code: 21, kind: IsADirectory, message: \"Is a directory\" \x7d"
  | .other reason => reason

end ReadFailure

/-! ## Faults -/

/-- Why an operation of the machine was refused. -/
inductive Fault where
  /-- The header of an instruction is not a nibble. -/
  | illegalHeader (word : UInt16)
  /-- The word at the program counter is no instruction. -/
  | unrecognized (word address : UInt16)
  /-- The layout of an instruction does not carry the operand. -/
  | missingOperand (operand : Operand) (layout : Layout) (word : UInt16)
  /-- A value does not fit into the operand. -/
  | operandRange (operand : Operand) (value : UInt16)
  /-- A span of bytes leaves the store that it is taken from. -/
  | outsideMemory (address length size : Nat)
  /-- A screen without pixels was asked for. -/
  | emptyScreen (width height : Nat)
  /-- A subroutine returned that nobody called. -/
  | emptyStack (address : UInt16)
  /-- The keypad has no such key. -/
  | noSuchKey (key : UInt8)
  /-- A program is larger than the memory behind its start address. -/
  | oversizedProgram (size limit : Nat)
  /-- A program could not be read. -/
  | unreadable (failure : ReadFailure)
deriving Repr, DecidableEq

namespace Fault

/-- The fault in words. -/
def message : Fault → String
  | .illegalHeader word =>
      "illegal instruction header in " ++ Hex.text 4 word.toNat
  | .unrecognized word address =>
      "unrecognized instruction " ++ Hex.text 4 word.toNat ++ " @ " ++ Hex.marked 3 address.toNat
  | .missingOperand operand layout word =>
      "invalid access attempt on " ++ operand.code ++ " in " ++ layout.code ++
        " on instruction " ++ Hex.text 4 word.toNat
  | .operandRange operand value =>
      operand.code ++ " must be between 0 and " ++ Hex.marked 1 operand.max ++
        " inclusive, not " ++ Hex.marked 1 value.toNat
  | .outsideMemory address length size =>
      "access of " ++ toString length ++ " byte(s) at " ++ Hex.marked 4 address ++
        " is outside " ++ toString size ++ " bytes of memory"
  | .emptyScreen width height =>
      "framebuffer dimensions must be positive, not " ++ toString width ++ "x" ++ toString height
  | .emptyStack address =>
      "return @ " ++ Hex.marked 3 address.toNat ++ " with an empty call stack"
  | .noSuchKey key =>
      "no such key " ++ Hex.marked 1 key.toNat ++ ", keys run from 0x0 to 0xF"
  | .oversizedProgram size limit =>
      "ROM is too large (" ++ toString size ++ " bytes), max size is " ++ toString limit ++ " bytes"
  | .unreadable failure => failure.message

/-- The name under which the fault is reported. -/
def name : Fault → String
  | .illegalHeader .. => "InvalidInstruction"
  | .unrecognized .. => "UnhandledInstruction"
  | .missingOperand .. => "FieldAccessViolation"
  | .operandRange .. => "OutOfRange"
  | .outsideMemory .. => "MemoryBoundsViolation"
  | .emptyScreen .. => "InvalidDimensions"
  | .emptyStack .. => "StackUnderflow"
  | .noSuchKey .. => "InvalidKey"
  | .oversizedProgram .. => "RomTooLarge"
  | .unreadable .. => "Io"

/-- A record with a name and labelled values. -/
def labelled (name : String) (values : List (String × String)) : String :=
  name ++ " \x7b " ++ String.intercalate ", " (values.map fun v => v.1 ++ ": " ++ v.2) ++ " \x7d"

/-- The fault as a record, with all numbers in decimal. -/
def record (fault : Fault) : String :=
  match fault with
  | .illegalHeader word => labelled fault.name [("word", toString word)]
  | .unrecognized word address =>
      labelled fault.name [("word", toString word), ("address", toString address)]
  | .missingOperand operand layout word =>
      labelled fault.name
        [("field", operand.code), ("pattern", layout.code), ("word", toString word)]
  | .operandRange operand value =>
      labelled fault.name
        [("field", operand.code), ("value", toString value), ("max", toString operand.max)]
  | .outsideMemory address length size =>
      labelled fault.name
        [("address", toString address), ("len", toString length), ("size", toString size)]
  | .emptyScreen width height =>
      labelled fault.name [("width", toString width), ("height", toString height)]
  | .emptyStack address => labelled fault.name [("address", toString address)]
  | .noSuchKey key => fault.name ++ "(" ++ toString key ++ ")"
  | .oversizedProgram size limit =>
      labelled fault.name [("size", toString size), ("max", toString limit)]
  | .unreadable failure => fault.name ++ "(" ++ failure.record ++ ")"

end Fault

/-- Refuse a value that does not fit into an operand. -/
def Operand.check (operand : Operand) (value : UInt16) : Except Fault Unit :=
  if value.toNat ≤ operand.max then .ok ()
  else .error (.operandRange operand value)

end Chip8

import Chip8.Instruction.Basic

/-!
# Reading and replacing operands

The operands of an instruction are independent cells.  Replacing one keeps all
others and everything that selects the operation.  A value that does not fit is
refused first, whether the layout carries the operand or not, and an operand that
the layout does not carry is refused next.
-/

namespace Chip8.Instruction

/-- The value of an operand, if the layout carries it. -/
def operand? : Instruction → Operand → Option Nat
  | .address _ nnn, .nnn => some nnn
  | .single _ x _, .x => some x
  | .immediate _ x _, .x => some x
  | .immediate _ _ kk, .kk => some kk.toNat
  | .pair _ x _ _, .x => some x
  | .pair _ _ y _, .y => some y
  | .sprite x _ _, .x => some x
  | .sprite _ y _, .y => some y
  | .sprite _ _ n, .n => some n
  | _, _ => none

/-- The instruction with another operand value, if the layout carries the
operand.  Only as many bits of the value are used as the operand has. -/
def withOperand? (instruction : Instruction) (operand : Operand) (value : Nat) :
    Option Instruction :=
  match instruction, operand with
  | .address family _, .nnn => some (.address family (Fin.ofNat 4096 value))
  | .single family _ selector, .x => some (.single family (Fin.ofNat 16 value) selector)
  | .immediate family _ kk, .x => some (.immediate family (Fin.ofNat 16 value) kk)
  | .immediate family x _, .kk => some (.immediate family x (UInt8.ofNat value))
  | .pair family _ y selector, .x => some (.pair family (Fin.ofNat 16 value) y selector)
  | .pair family x _ selector, .y => some (.pair family x (Fin.ofNat 16 value) selector)
  | .sprite _ y n, .x => some (.sprite (Fin.ofNat 16 value) y n)
  | .sprite x _ n, .y => some (.sprite x (Fin.ofNat 16 value) n)
  | .sprite x y _, .n => some (.sprite x y (Fin.ofNat 16 value))
  | _, _ => none

/-- Read an operand. -/
def get (instruction : Instruction) (operand : Operand) : Except Fault Nat :=
  match instruction.operand? operand with
  | some value => .ok value
  | none => .error (.missingOperand operand instruction.layout instruction.word)

/-- Replace an operand. -/
def set (instruction : Instruction) (operand : Operand) (value : UInt16) :
    Except Fault Instruction := do
  operand.check value
  match instruction.withOperand? operand value.toNat with
  | some changed => .ok changed
  | none => .error (.missingOperand operand instruction.layout instruction.word)

end Chip8.Instruction

import Chip8.Fault
import Chip8.Word

/-!
# Instructions

An instruction is the decoded form of a word.  It holds the operands of its
layout, each in a type of exactly the operand's width, and whatever else of the
word selects the operation.  The families of one layout are named, so a header
never meets a layout that does not belong to it.  Therefore every word decodes
and every instruction has exactly one word.

Whether the machine knows what to do with an instruction is a separate question,
which `Chip8.Instruction.Operation` answers.
-/

namespace Chip8

/-- The number of a register. -/
abbrev Register := Nibble

/-! ## Families -/

/-- The families whose operand is an address. -/
inductive AddressFamily where
  /-- Continue at the address. -/
  | jump
  /-- Continue at the address and come back later. -/
  | call
  /-- Put the address into the index register. -/
  | index
  /-- Continue at the address plus a register. -/
  | offset
deriving Repr, DecidableEq

/-- The families with one register and a selecting byte. -/
inductive SingleFamily where
  /-- Conditions on the keypad. -/
  | keypad
  /-- Timers, index register and memory. -/
  | system
deriving Repr, DecidableEq

/-- The families with one register and an immediate byte. -/
inductive ImmediateFamily where
  /-- Skip if the register equals the byte. -/
  | skipEqual
  /-- Skip if the register differs from the byte. -/
  | skipUnequal
  /-- Put the byte into the register. -/
  | load
  /-- Add the byte to the register. -/
  | add
  /-- Put a masked random byte into the register. -/
  | random
deriving Repr, DecidableEq

/-- The families with two registers and a selecting nibble. -/
inductive PairFamily where
  /-- Skip if the registers are equal. -/
  | skipEqual
  /-- Combine the registers. -/
  | arithmetic
  /-- Skip if the registers differ. -/
  | skipUnequal
deriving Repr, DecidableEq

/-- The header of a family. -/
def AddressFamily.header : AddressFamily → Nat
  | .jump => 0x1
  | .call => 0x2
  | .index => 0xA
  | .offset => 0xB

/-- The header of a family. -/
def SingleFamily.header : SingleFamily → Nat
  | .keypad => 0xE
  | .system => 0xF

/-- The header of a family. -/
def ImmediateFamily.header : ImmediateFamily → Nat
  | .skipEqual => 0x3
  | .skipUnequal => 0x4
  | .load => 0x6
  | .add => 0x7
  | .random => 0xC

/-- The header of a family. -/
def PairFamily.header : PairFamily → Nat
  | .skipEqual => 0x5
  | .arithmetic => 0x8
  | .skipUnequal => 0x9

/-! ## Decoding and encoding -/

/-- A decoded word. -/
inductive Instruction where
  /-- Header zero: everything else selects the operation. -/
  | bare (selector : Fin 4096)
  /-- An operation on an address. -/
  | address (family : AddressFamily) (nnn : Fin 4096)
  /-- An operation on one register. -/
  | single (family : SingleFamily) (x : Register) (selector : UInt8)
  /-- An operation on one register and a byte. -/
  | immediate (family : ImmediateFamily) (x : Register) (kk : UInt8)
  /-- An operation on two registers. -/
  | pair (family : PairFamily) (x y : Register) (selector : Nibble)
  /-- The sprite operation. -/
  | sprite (x y : Register) (n : Nibble)
deriving Repr, DecidableEq

namespace Instruction

/-- The layout of the instruction. -/
def layout : Instruction → Layout
  | .bare .. => .bare
  | .address .. => .address
  | .single .. => .single
  | .immediate .. => .immediate
  | .pair .. => .pair
  | .sprite .. => .sprite

/-- The highest nibble of the instruction's word. -/
def header : Instruction → Nat
  | .bare _ => 0x0
  | .address family _ => family.header
  | .single family .. => family.header
  | .immediate family .. => family.header
  | .pair family .. => family.header
  | .sprite .. => 0xD

/-- What stands behind the header in the instruction's word. -/
def body : Instruction → Nat
  | .bare selector => selector
  | .address _ nnn => nnn
  | .single _ x selector => x * 256 + selector.toNat
  | .immediate _ x kk => x * 256 + kk.toNat
  | .pair _ x y selector => x * 256 + y * 16 + selector
  | .sprite x y n => x * 256 + y * 16 + n

/-- The word of the instruction. -/
def word (instruction : Instruction) : UInt16 :=
  UInt16.ofNat (instruction.header * 4096 + instruction.body)

/-- The instruction whose word is given.  Fifteen headers are named, and what is
left is the header `F`. -/
def ofWord (word : UInt16) : Instruction :=
  let nnn := Fin.ofNat 4096 word.toNat
  let x := Fin.ofNat 16 (word.toNat / 256)
  let y := Fin.ofNat 16 (word.toNat / 16)
  let n := Fin.ofNat 16 word.toNat
  let kk := Word.low word
  match word.toNat / 4096 with
  | 0x0 => .bare nnn
  | 0x1 => .address .jump nnn
  | 0x2 => .address .call nnn
  | 0x3 => .immediate .skipEqual x kk
  | 0x4 => .immediate .skipUnequal x kk
  | 0x5 => .pair .skipEqual x y n
  | 0x6 => .immediate .load x kk
  | 0x7 => .immediate .add x kk
  | 0x8 => .pair .arithmetic x y n
  | 0x9 => .pair .skipUnequal x y n
  | 0xA => .address .index nnn
  | 0xB => .address .offset nnn
  | 0xC => .immediate .random x kk
  | 0xD => .sprite x y n
  | 0xE => .single .keypad x kk
  | _ => .single .system x kk

/-- The instruction of a family with nothing behind its header. -/
def ofHeader (header : UInt8) : Except Fault Instruction :=
  if header.toNat < 16 then .ok (ofWord (UInt16.ofNat (header.toNat * 4096)))
  else .error (.illegalHeader (UInt16.ofNat (header.toNat * 4096)))

/-- The word of the instruction as four capital hexadecimal digits. -/
def text (instruction : Instruction) : String :=
  Hex.text 4 instruction.word.toNat

end Instruction

end Chip8

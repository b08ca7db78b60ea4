import Chip8.Instruction.Basic

/-!
# Operations

An operation is what an instruction asks the machine to do.  The selecting parts
of a word leave room for far more instructions than there are operations, so
reading an operation off an instruction may fail.  The arithmetic of two
registers is a group of its own, because all its members act on two bytes and
nothing else.
-/

namespace Chip8

/-! ## Arithmetic -/

/-- A way to combine two registers. -/
inductive Arithmetic where
  /-- The second operand. -/
  | copy
  /-- Bitwise or. -/
  | or
  /-- Bitwise and. -/
  | and
  /-- Bitwise exclusive or. -/
  | xor
  /-- The sum, with a carry. -/
  | add
  /-- The first operand less the second. -/
  | subtract
  /-- The second operand without its lowest bit, halved. -/
  | shiftRight
  /-- The second operand less the first. -/
  | subtractFrom
  /-- The second operand doubled. -/
  | shiftLeft
deriving Repr, DecidableEq

namespace Arithmetic

/-- The operation that a nibble selects. -/
def ofSelector? : Nibble → Option Arithmetic
  | 0x0 => some .copy
  | 0x1 => some .or
  | 0x2 => some .and
  | 0x3 => some .xor
  | 0x4 => some .add
  | 0x5 => some .subtract
  | 0x6 => some .shiftRight
  | 0x7 => some .subtractFrom
  | 0xE => some .shiftLeft
  | _ => none

/-- The result for two operands.  A sum and a doubled byte keep their low eight
bits, and a difference is never below zero. -/
def result (op : Arithmetic) (x y : UInt8) : UInt8 :=
  match op with
  | .copy => y
  | .or => x ||| y
  | .and => x &&& y
  | .xor => x ^^^ y
  | .add => x + y
  | .subtract => UInt8.ofNat (x.toNat - y.toNat)
  | .shiftRight => UInt8.ofNat (y.toNat / 2)
  | .subtractFrom => UInt8.ofNat (y.toNat - x.toNat)
  | .shiftLeft => y + y

/-- The flag for two operands, where the operation has one.  It tells of a carry,
of a difference that is not below zero, or of the bit that was shifted out. -/
def flag? (op : Arithmetic) (x y : UInt8) : Option Bool :=
  match op with
  | .copy | .or | .and | .xor => none
  | .add => some (decide (255 < x.toNat + y.toNat))
  | .subtract => some (decide (y ≤ x))
  | .shiftRight => some (decide (y.toNat % 2 = 1))
  | .subtractFrom => some (decide (x ≤ y))
  | .shiftLeft => some (decide (128 ≤ y.toNat))

end Arithmetic

/-! ## Operations -/

/-- What an instruction asks the machine to do. -/
inductive Operation where
  /-- Turn every pixel off. -/
  | clearScreen
  /-- Continue behind the call that led here. -/
  | endSubroutine
  /-- Continue at an address. -/
  | jump (target : Fin 4096)
  /-- Continue at an address and come back later. -/
  | call (target : Fin 4096)
  /-- Put an address into the index register. -/
  | setIndex (address : Fin 4096)
  /-- Continue at an address plus register 0. -/
  | jumpOffset (base : Fin 4096)
  /-- Skip an instruction if a register equals a byte. -/
  | skipIfByte (x : Register) (kk : UInt8)
  /-- Skip an instruction unless a register equals a byte. -/
  | skipUnlessByte (x : Register) (kk : UInt8)
  /-- Skip an instruction if two registers are equal. -/
  | skipIfEqual (x y : Register)
  /-- Skip an instruction unless two registers are equal. -/
  | skipUnlessEqual (x y : Register)
  /-- Put a byte into a register. -/
  | load (x : Register) (kk : UInt8)
  /-- Add a byte to a register, without a flag. -/
  | add (x : Register) (kk : UInt8)
  /-- Put a random byte under a mask into a register. -/
  | random (x : Register) (mask : UInt8)
  /-- Combine two registers into the first one. -/
  | combine (op : Arithmetic) (x y : Register)
  /-- Skip an instruction if the key named by a register is down. -/
  | skipIfKey (x : Register)
  /-- Skip an instruction unless the key named by a register is down. -/
  | skipUnlessKey (x : Register)
  /-- Put the delay timer into a register. -/
  | readDelay (x : Register)
  /-- Wait for a key and put it into a register. -/
  | awaitKey (x : Register)
  /-- Set the delay timer from a register. -/
  | setDelay (x : Register)
  /-- Set the sound timer from a register. -/
  | setSound (x : Register)
  /-- Add a register to the index register. -/
  | addIndex (x : Register)
  /-- Point the index register at the glyph named by a register. -/
  | pointAtGlyph (x : Register)
  /-- Store the three decimal digits of a register. -/
  | storeDecimal (x : Register)
  /-- Store the registers from 0 to the given one. -/
  | storeRegisters (x : Register)
  /-- Load the registers from 0 to the given one. -/
  | loadRegisters (x : Register)
  /-- Draw a sprite of `n` rows at the position that two registers give. -/
  | draw (x y : Register) (n : Nibble)
deriving Repr, DecidableEq

namespace Operation

/-- The operation of an instruction with one register and a selecting byte. -/
def ofSingle? (x : Register) : SingleFamily → UInt8 → Option Operation
  | .keypad, 0x9E => some (.skipIfKey x)
  | .keypad, 0xA1 => some (.skipUnlessKey x)
  | .system, 0x07 => some (.readDelay x)
  | .system, 0x0A => some (.awaitKey x)
  | .system, 0x15 => some (.setDelay x)
  | .system, 0x18 => some (.setSound x)
  | .system, 0x1E => some (.addIndex x)
  | .system, 0x29 => some (.pointAtGlyph x)
  | .system, 0x33 => some (.storeDecimal x)
  | .system, 0x55 => some (.storeRegisters x)
  | .system, 0x65 => some (.loadRegisters x)
  | _, _ => none

/-- The operation that an instruction asks for, if there is one. -/
def ofInstruction? : Instruction → Option Operation
  | .bare 0x0E0 => some .clearScreen
  | .bare 0x0EE => some .endSubroutine
  | .bare _ => none
  | .address .jump nnn => some (.jump nnn)
  | .address .call nnn => some (.call nnn)
  | .address .index nnn => some (.setIndex nnn)
  | .address .offset nnn => some (.jumpOffset nnn)
  | .single family x selector => ofSingle? x family selector
  | .immediate .skipEqual x kk => some (.skipIfByte x kk)
  | .immediate .skipUnequal x kk => some (.skipUnlessByte x kk)
  | .immediate .load x kk => some (.load x kk)
  | .immediate .add x kk => some (.add x kk)
  | .immediate .random x kk => some (.random x kk)
  | .pair .skipEqual x y 0 => some (.skipIfEqual x y)
  | .pair .skipUnequal x y 0 => some (.skipUnlessEqual x y)
  | .pair .arithmetic x y selector => (Arithmetic.ofSelector? selector).map (.combine · x y)
  | .pair .. => none
  | .sprite x y n => some (.draw x y n)

/-- The operation of a word, if there is one. -/
def ofWord? (word : UInt16) : Option Operation :=
  ofInstruction? (Instruction.ofWord word)

end Operation

end Chip8

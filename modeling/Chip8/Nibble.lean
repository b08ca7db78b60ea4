/-!
# Nibbles

A nibble is a number of four bits.  Nibbles count the registers, the keys and the
words of a cipher block.  Numerals for nibbles and for twelve-bit addresses are
taken modulo their number of values, which is not zero.
-/

namespace Chip8

/-- A number of four bits. -/
abbrev Nibble := Fin 16

/-- There are nibbles. -/
instance neZeroNibble : @NeZero Nat Zero.ofOfNat0 16 :=
  ⟨Nat.succ_ne_zero 15⟩

/-- There are addresses of twelve bits. -/
instance neZeroAddress : @NeZero Nat Zero.ofOfNat0 4096 :=
  ⟨Nat.succ_ne_zero 4095⟩

end Chip8

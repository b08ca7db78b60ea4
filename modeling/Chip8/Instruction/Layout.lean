/-!
# Operand layouts

An instruction is a sixteen-bit word.  Its highest nibble, the header, names a
family of instructions and decides how the other three nibbles are divided.  In
the code of a layout, `I` marks a nibble that selects the instruction, `X` and
`Y` are register numbers, `KK` is a byte, `N` a nibble and `NNN` an address of
twelve bits.  Each of the sixteen headers has exactly one of six layouts.
-/

namespace Chip8

/-! ## Operands -/

/-- A slot for a number inside an instruction word. -/
inductive Operand where
  /-- An address of twelve bits. -/
  | nnn
  /-- The first register. -/
  | x
  /-- The second register. -/
  | y
  /-- An immediate byte. -/
  | kk
  /-- The number of rows of a sprite. -/
  | n
deriving Repr, DecidableEq

namespace Operand

/-- Every operand, in the order in which they are listed to a reader. -/
def all : List Operand :=
  [.nnn, .x, .y, .kk, .n]

/-- The letters that stand for the operand in a layout. -/
def code : Operand → String
  | .nnn => "NNN"
  | .x => "X"
  | .y => "Y"
  | .kk => "KK"
  | .n => "N"

/-- The largest value that the operand can hold. -/
def max : Operand → Nat
  | .nnn => 0xFFF
  | .kk => 0xFF
  | .x | .y | .n => 0xF

end Operand

/-! ## Layouts -/

/-- How an instruction word is divided after its header. -/
inductive Layout where
  /-- No operand: three nibbles select the instruction. -/
  | bare
  /-- One address. -/
  | address
  /-- One register and a byte that selects the instruction. -/
  | single
  /-- One register and an immediate byte. -/
  | immediate
  /-- Two registers and a nibble that selects the instruction. -/
  | pair
  /-- Two registers and a number of rows. -/
  | sprite
deriving Repr, DecidableEq

namespace Layout

/-- The nibbles of a word in the layout, highest first. -/
def code : Layout → String
  | .bare => "IIII"
  | .address => "INNN"
  | .single => "IXII"
  | .immediate => "IXKK"
  | .pair => "IXYI"
  | .sprite => "IXYN"

/-- The operands that the layout carries. -/
def operands : Layout → List Operand
  | .bare => []
  | .address => [.nnn]
  | .single => [.x]
  | .immediate => [.x, .kk]
  | .pair => [.x, .y]
  | .sprite => [.x, .y, .n]

/-- The layout that belongs to a header, if the header is a nibble. -/
def ofHeader? : Nat → Option Layout
  | 0x0 => some .bare
  | 0x1 | 0x2 | 0xA | 0xB => some .address
  | 0xE | 0xF => some .single
  | 0x3 | 0x4 | 0x6 | 0x7 | 0xC => some .immediate
  | 0x5 | 0x8 | 0x9 => some .pair
  | 0xD => some .sprite
  | _ => none

end Layout

end Chip8

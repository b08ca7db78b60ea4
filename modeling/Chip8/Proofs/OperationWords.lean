import Chip8.Instruction.Codec
import Chip8.Instruction.Operation

/-!
# Words of operations

Every operation is asked for by exactly one instruction, and so by exactly one
word.  Reading an operation off a word is therefore the same as comparing the word
with the word of the operation, and its number is the header followed by the
operands and whatever selects the operation.
-/

namespace Chip8

/-! ## Arithmetic -/

namespace Arithmetic

/-- The nibble that selects an arithmetic operation. -/
def selector : Arithmetic → Nibble
  | .copy => 0x0
  | .or => 0x1
  | .and => 0x2
  | .xor => 0x3
  | .add => 0x4
  | .subtract => 0x5
  | .shiftRight => 0x6
  | .subtractFrom => 0x7
  | .shiftLeft => 0xE

theorem selector_of_ofSelector? {nibble : Nibble} {op : Arithmetic}
    (selected : ofSelector? nibble = some op) : op.selector = nibble := by
  unfold ofSelector? at selected
  split at selected <;> cases selected <;> rfl

theorem ofSelector?_selector (op : Arithmetic) : ofSelector? op.selector = some op := by
  cases op <;> rfl

end Arithmetic

/-! ## Operations -/

namespace Operation

/-- The instruction that asks for an operation. -/
def instruction : Operation → Instruction
  | .clearScreen => .bare 0x0E0
  | .endSubroutine => .bare 0x0EE
  | .jump target => .address .jump target
  | .call target => .address .call target
  | .setIndex address => .address .index address
  | .jumpOffset base => .address .offset base
  | .skipIfByte x kk => .immediate .skipEqual x kk
  | .skipUnlessByte x kk => .immediate .skipUnequal x kk
  | .skipIfEqual x y => .pair .skipEqual x y 0
  | .skipUnlessEqual x y => .pair .skipUnequal x y 0
  | .load x kk => .immediate .load x kk
  | .add x kk => .immediate .add x kk
  | .random x mask => .immediate .random x mask
  | .combine op x y => .pair .arithmetic x y op.selector
  | .skipIfKey x => .single .keypad x 0x9E
  | .skipUnlessKey x => .single .keypad x 0xA1
  | .readDelay x => .single .system x 0x07
  | .awaitKey x => .single .system x 0x0A
  | .setDelay x => .single .system x 0x15
  | .setSound x => .single .system x 0x18
  | .addIndex x => .single .system x 0x1E
  | .pointAtGlyph x => .single .system x 0x29
  | .storeDecimal x => .single .system x 0x33
  | .storeRegisters x => .single .system x 0x55
  | .loadRegisters x => .single .system x 0x65
  | .draw x y n => .sprite x y n

theorem instruction_of_ofSingle? {x : Register} {family : SingleFamily} {selector : UInt8}
    {operation : Operation} (asked : ofSingle? x family selector = some operation) :
    operation.instruction = .single family x selector := by
  unfold ofSingle? at asked
  split at asked <;> cases asked <;> rfl

theorem instruction_of_ofInstruction? {asking : Instruction} {operation : Operation}
    (asked : ofInstruction? asking = some operation) : operation.instruction = asking := by
  unfold ofInstruction? at asked
  split at asked
  case h_8 family x selector => exact instruction_of_ofSingle? asked
  case h_16 x y selector =>
    obtain ⟨op, selected, rfl⟩ := Option.map_eq_some_iff.mp asked
    rw [instruction, Arithmetic.selector_of_ofSelector? selected]
  all_goals
    cases asked
    try rfl

theorem ofInstruction?_instruction (operation : Operation) :
    ofInstruction? operation.instruction = some operation := by
  cases operation with
  | combine op x y =>
      rw [instruction, ofInstruction?, Arithmetic.ofSelector?_selector]
      rfl
  | _ => rfl

/-- A word asks for an operation exactly if it is the operation's word. -/
theorem ofWord?_eq_some_iff {word : UInt16} {operation : Operation} :
    ofWord? word = some operation ↔ operation.instruction.word = word := by
  constructor
  · intro asked
    rw [instruction_of_ofInstruction? asked, Instruction.word_ofWord]
  · rintro rfl
    rw [ofWord?, Instruction.ofWord_word, ofInstruction?_instruction]

/-! ## Numbers -/

/-- The number of an operation's word. -/
def code : Operation → Nat
  | .clearScreen => 0x00E0
  | .endSubroutine => 0x00EE
  | .jump target => 0x1000 + target
  | .call target => 0x2000 + target
  | .setIndex address => 0xA000 + address
  | .jumpOffset base => 0xB000 + base
  | .skipIfByte x kk => 0x3000 + x * 0x100 + kk.toNat
  | .skipUnlessByte x kk => 0x4000 + x * 0x100 + kk.toNat
  | .skipIfEqual x y => 0x5000 + x * 0x100 + y * 0x10
  | .skipUnlessEqual x y => 0x9000 + x * 0x100 + y * 0x10
  | .load x kk => 0x6000 + x * 0x100 + kk.toNat
  | .add x kk => 0x7000 + x * 0x100 + kk.toNat
  | .random x mask => 0xC000 + x * 0x100 + mask.toNat
  | .combine op x y => 0x8000 + x * 0x100 + y * 0x10 + op.selector
  | .skipIfKey x => 0xE09E + x * 0x100
  | .skipUnlessKey x => 0xE0A1 + x * 0x100
  | .readDelay x => 0xF007 + x * 0x100
  | .awaitKey x => 0xF00A + x * 0x100
  | .setDelay x => 0xF015 + x * 0x100
  | .setSound x => 0xF018 + x * 0x100
  | .addIndex x => 0xF01E + x * 0x100
  | .pointAtGlyph x => 0xF029 + x * 0x100
  | .storeDecimal x => 0xF033 + x * 0x100
  | .storeRegisters x => 0xF055 + x * 0x100
  | .loadRegisters x => 0xF065 + x * 0x100
  | .draw x y n => 0xD000 + x * 0x100 + y * 0x10 + n

theorem toNat_word_instruction (operation : Operation) :
    operation.instruction.word.toNat = operation.code := by
  rw [Instruction.toNat_word]
  have zeroSelector : ((0 : Nibble) : Nat) = 0 := rfl
  have clearSelector : ((0x0E0 : Fin 4096) : Nat) = 0x0E0 := rfl
  have endSelector : ((0x0EE : Fin 4096) : Nat) = 0x0EE := rfl
  cases operation
  all_goals simp only [instruction, Instruction.header, Instruction.body, AddressFamily.header,
    SingleFamily.header, ImmediateFamily.header, PairFamily.header, UInt8.reduceToNat,
    zeroSelector, clearSelector, endSelector, code]
  all_goals omega

/-- A number is the code of the operation that the word with that number asks for. -/
theorem code_eq_iff {word : UInt16} {operation : Operation} :
    word.toNat = operation.code ↔ ofWord? word = some operation := by
  rw [ofWord?_eq_some_iff, ← toNat_word_instruction, UInt16.toNat_inj, eq_comm]

end Operation

end Chip8

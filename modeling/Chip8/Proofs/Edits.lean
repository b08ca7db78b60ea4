import Chip8.Instruction.Codec
import Chip8.Instruction.Edit
import Mathlib.Data.Nat.Bitwise

/-!
# Edited instructions

Every operand has a place in the word of an instruction.  Replacing an operand changes
bits of its place only, and the operand then holds the very number that was given, because
a number that does not fit is refused before.  So an edited instruction is of the same
family as before, however often it is edited and whether the edits are granted or not: it
has the same layout and header, and the same bits wherever its layout has no operand.
-/

namespace Chip8

/-! ## Places of operands -/

namespace Operand

/-- The lowest bit of the operand in a word. -/
def place : Operand → Nat
  | .nnn | .kk | .n => 0
  | .x => 8
  | .y => 4

/-- The number of bits of the operand. -/
def width : Operand → Nat
  | .nnn => 12
  | .kk => 8
  | .x | .y | .n => 4

/-- The bit of a word belongs to the operand. -/
def Covers (operand : Operand) (bit : Nat) : Prop :=
  operand.place ≤ bit ∧ bit < operand.place + operand.width

/-- Two numbers that agree below and above the place of an operand agree in every bit
outside it. -/
theorem testBit_eq_of_not_covers {operand : Operand} {first second bit : Nat}
    (below : first % 2 ^ operand.place = second % 2 ^ operand.place)
    (above : first / 2 ^ (operand.place + operand.width) =
      second / 2 ^ (operand.place + operand.width))
    (outside : ¬ operand.Covers bit) : first.testBit bit = second.testBit bit := by
  by_cases low : bit < operand.place
  · have bits := congrArg (·.testBit bit) below
    simpa only [Nat.testBit_mod_two_pow, low, decide_true, Bool.true_and] using bits
  · have high : operand.place + operand.width ≤ bit :=
      Nat.le_of_not_lt fun within => outside ⟨Nat.le_of_not_lt low, within⟩
    obtain ⟨offset, rfl⟩ := Nat.exists_eq_add_of_le' high
    have bits := congrArg (·.testBit offset) above
    simpa only [Nat.testBit_div_two_pow] using bits

end Operand

/-- The bit of a word belongs to no operand of the layout. -/
def Layout.Selects (layout : Layout) (bit : Nat) : Prop :=
  ∀ operand ∈ layout.operands, ¬ operand.Covers bit

instance (operand : Operand) (bit : Nat) : Decidable (operand.Covers bit) :=
  inferInstanceAs (Decidable (_ ∧ _))

instance (layout : Layout) (bit : Nat) : Decidable (layout.Selects bit) :=
  inferInstanceAs (Decidable (∀ operand ∈ layout.operands, ¬ operand.Covers bit))

/-- Two registers leave the header and the lowest nibble. -/
example : (List.range 16).filter (Layout.pair.Selects ·) = [0, 1, 2, 3, 12, 13, 14, 15] := by
  decide

namespace Instruction

variable {instruction original edited changed : Instruction} {operand : Operand}

/-! ## One replacement -/

/-- What replacing an operand does. -/
structure Replacement (instruction : Instruction) (operand : Operand) (value : Nat)
    (changed : Instruction) : Prop where
  carried : operand ∈ instruction.layout.operands
  layout : changed.layout = instruction.layout
  header : changed.header = instruction.header
  stored : changed.operand? operand = some value
  below : changed.body % 2 ^ operand.place = instruction.body % 2 ^ operand.place
  above : changed.body / 2 ^ (operand.place + operand.width) =
    instruction.body / 2 ^ (operand.place + operand.width)

theorem replacement_of_withOperand? {value : Nat} (fits : value ≤ operand.max)
    (replaced : instruction.withOperand? operand value = some changed) :
    Replacement instruction operand value changed := by
  have small := Nat.lt_succ_of_le fits
  rw [withOperand?.eq_def] at replaced
  -- one case for each operand of each layout, first those beside a byte
  split at replaced <;> cases replaced
  case h_2 _ _ byte | h_3 _ _ byte | h_4 _ _ byte =>
    have byteBound := byte.toNat_lt
    refine ⟨by simp [layout, Layout.operands], rfl, rfl,
      congrArg some (Nat.mod_eq_of_lt small), ?_, ?_⟩ <;>
    · simp only [body, Fin.ofNat, UInt8.toNat_ofNat', Operand.place, Operand.width]
      omega
  all_goals
    refine ⟨by simp [layout, Layout.operands], rfl, rfl,
      congrArg some (Nat.mod_eq_of_lt small), ?_, ?_⟩ <;>
    · simp only [body, Fin.ofNat, Operand.place, Operand.width]
      omega

/-- A granted replacement has found a number that fits and an operand that is there. -/
theorem replacement_of_set {value : UInt16}
    (granted : instruction.set operand value = .ok changed) :
    Replacement instruction operand value.toNat changed := by
  by_cases fits : value.toNat ≤ operand.max
  · rw [set, Operand.check, if_pos fits] at granted
    cases replaced : instruction.withOperand? operand value.toNat with
    | none =>
        rw [replaced] at granted
        cases granted
    | some found =>
        rw [replaced] at granted
        cases granted
        exact replacement_of_withOperand? fits replaced
  · rw [set, Operand.check, if_neg fits] at granted
    cases granted

/-- A replaced operand holds the number that was given. -/
theorem get_of_set {value : UInt16} (granted : instruction.set operand value = .ok changed) :
    changed.get operand = .ok value.toNat := by
  rw [get, (replacement_of_set granted).stored]

theorem Replacement.testBit_word {value bit : Nat}
    (replacement : Replacement instruction operand value changed)
    (outside : ¬ operand.Covers bit) :
    changed.word.toNat.testBit bit = instruction.word.toNat.testBit bit := by
  have below := replacement.below
  have above := replacement.above
  apply Operand.testBit_eq_of_not_covers _ _ outside <;>
  · rw [toNat_word, toNat_word, replacement.header]
    cases operand <;> simp only [Operand.place, Operand.width] at below above ⊢ <;> omega

/-! ## Families -/

/-- The instructions differ in their operands at most. -/
structure SameFamily (original edited : Instruction) : Prop where
  layout : edited.layout = original.layout
  header : edited.header = original.header
  bits : ∀ bit, original.layout.Selects bit →
    edited.word.toNat.testBit bit = original.word.toNat.testBit bit

theorem SameFamily.refl (instruction : Instruction) : instruction.SameFamily instruction :=
  ⟨rfl, rfl, fun _ _ => rfl⟩

theorem SameFamily.trans (first : original.SameFamily instruction)
    (second : instruction.SameFamily edited) : original.SameFamily edited where
  layout := second.layout.trans first.layout
  header := second.header.trans first.header
  bits bit selects := by
    have further := second.bits bit (first.layout ▸ selects)
    rw [further, first.bits bit selects]

theorem Replacement.sameFamily {value : Nat}
    (replacement : Replacement instruction operand value changed) :
    instruction.SameFamily changed where
  layout := replacement.layout
  header := replacement.header
  bits _ selects := replacement.testBit_word (selects operand replacement.carried)

/-! ## Many replacements -/

/-- A number for an operand. -/
structure Edit where
  /-- The operand. -/
  operand : Operand
  /-- The number. -/
  value : UInt16

/-- The instruction after an edit, which is the one before if the edit is refused. -/
def edit (instruction : Instruction) (edit : Edit) : Instruction :=
  match instruction.set edit.operand edit.value with
  | .ok changed => changed
  | .error _ => instruction

/-- The instruction after one edit after another. -/
def editAll (instruction : Instruction) (edits : List Edit) : Instruction :=
  edits.foldl edit instruction

theorem sameFamily_edit (instruction : Instruction) (edit : Edit) :
    instruction.SameFamily (instruction.edit edit) := by
  rw [Instruction.edit]
  split
  · next granted => exact (replacement_of_set granted).sameFamily
  · exact .refl instruction

theorem sameFamily_editAll (instruction : Instruction) (edits : List Edit) :
    instruction.SameFamily (instruction.editAll edits) := by
  induction edits generalizing instruction with
  | nil => exact .refl instruction
  | cons edit rest induction =>
      exact (instruction.sameFamily_edit edit).trans (induction (instruction.edit edit))

end Instruction

end Chip8

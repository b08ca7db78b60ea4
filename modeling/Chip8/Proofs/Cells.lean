import Chip8.Proofs.Edits

/-!
# Operands as cells

The operands of a layout have places of their own in a word, none of which overlap.  So an
instruction is a row of cells.  Its layout says which cells there are, and each of them can
be read and written.  A write is refused if the number does not fit, or else if there is no
such cell, and a refused write changes nothing.

However an instruction is edited, a cell holds the number of the last write that was
granted to it, or what it held at first.  Bits outside the cells that were written are
those of the word that was decoded.  Two writes to different cells can change places.
-/

namespace Chip8

/-! ## Places that are apart -/

theorem Layout.apart (layout : Layout) :
    ∀ first ∈ layout.operands, ∀ second ∈ layout.operands, first ≠ second →
      first.place + first.width ≤ second.place ∨ second.place + second.width ≤ first.place := by
  cases layout <;> decide

/-- No bit of a word belongs to two operands of its layout. -/
theorem Layout.not_covers {layout : Layout} {first second : Operand} {bit : Nat}
    (carried : first ∈ layout.operands) (carried' : second ∈ layout.operands)
    (different : first ≠ second) (covers : first.Covers bit) : ¬ second.Covers bit := by
  have apart := layout.apart first carried second carried' different
  obtain ⟨low, high⟩ := covers
  rintro ⟨low', high'⟩
  omega

namespace Instruction

variable {instruction original edited changed : Instruction} {operand : Operand}

/-! ## Cells of a layout -/

theorem operand?_eq_none_iff :
    instruction.operand? operand = none ↔ operand ∉ instruction.layout.operands := by
  cases instruction <;> cases operand <;> simp [operand?, layout, Layout.operands]

theorem withOperand?_eq_none_iff {value : Nat} :
    instruction.withOperand? operand value = none ↔
      operand ∉ instruction.layout.operands := by
  cases instruction <;> cases operand <;> simp [withOperand?, layout, Layout.operands]

/-- A cell holds the bits of the word at its place. -/
theorem operand?_of_mem (carried : operand ∈ instruction.layout.operands) :
    instruction.operand? operand =
      some (instruction.word.toNat / 2 ^ operand.place % 2 ^ operand.width) := by
  rw [toNat_word]
  cases instruction with
  | bare _ => cases carried
  | address family nnn =>
      have nnnBound := nnn.isLt
      obtain rfl := List.mem_singleton.mp carried
      simp only [operand?, body, Operand.place, Operand.width, Option.some.injEq]
      omega
  | single family x selector =>
      have xBound := x.isLt
      have selectorBound := selector.toNat_lt
      obtain rfl := List.mem_singleton.mp carried
      simp only [operand?, body, Operand.place, Operand.width, Option.some.injEq]
      omega
  | immediate family x kk =>
      have xBound := x.isLt
      have kkBound := kk.toNat_lt
      simp only [layout, Layout.operands, List.mem_cons, List.not_mem_nil, or_false] at carried
      rcases carried with rfl | rfl <;>
      · simp only [operand?, body, Operand.place, Operand.width, Option.some.injEq]
        omega
  | pair family x y selector =>
      have xBound := x.isLt
      have yBound := y.isLt
      have selectorBound := selector.isLt
      simp only [layout, Layout.operands, List.mem_cons, List.not_mem_nil, or_false] at carried
      rcases carried with rfl | rfl <;>
      · simp only [operand?, body, Operand.place, Operand.width, Option.some.injEq]
        omega
  | sprite x y n =>
      have xBound := x.isLt
      have yBound := y.isLt
      have nBound := n.isLt
      simp only [layout, Layout.operands, List.mem_cons, List.not_mem_nil, or_false] at carried
      rcases carried with rfl | rfl | rfl <;>
      · simp only [operand?, body, Operand.place, Operand.width, Option.some.injEq]
        omega

/-- A cell holds the number, whose bits are those of the word at the cell's place. -/
theorem testBit_of_operand? {value bit : Nat} (held : instruction.operand? operand = some value)
    (covers : operand.Covers bit) :
    instruction.word.toNat.testBit bit = value.testBit (bit - operand.place) := by
  have carried : operand ∈ instruction.layout.operands := by
    by_contra missing
    cases held.symm.trans (operand?_eq_none_iff.mpr missing)
  rw [operand?_of_mem carried] at held
  obtain rfl := Option.some.inj held
  obtain ⟨low, high⟩ := covers
  have inside : bit - operand.place < operand.width := by omega
  have shift : bit - operand.place + operand.place = bit := Nat.sub_add_cancel low
  rw [Nat.testBit_mod_two_pow, Nat.testBit_div_two_pow, shift, decide_eq_true inside,
    Bool.true_and]

/-- Instructions of one family with the same operands are the same. -/
theorem SameFamily.eq_of_operands {first second : Instruction}
    (family : original.SameFamily first) (family' : original.SameFamily second)
    (same : ∀ operand, second.operand? operand = first.operand? operand) : second = first := by
  have words : second.word = first.word := by
    apply UInt16.toNat_inj.mp
    apply Nat.eq_of_testBit_eq
    intro bit
    by_cases selects : original.layout.Selects bit
    · rw [family.bits bit selects, family'.bits bit selects]
    · -- the bit belongs to a cell, which holds the same number in both
      simp only [Layout.Selects, not_forall, not_not] at selects
      obtain ⟨operand, carried, covers⟩ := selects
      have held := operand?_of_mem (family.layout ▸ carried)
      rw [testBit_of_operand? held covers, testBit_of_operand? ((same operand).trans held) covers]
  rw [← ofWord_word second, words, ofWord_word]

/-! ## One write -/

/-- A write leaves the other cells alone. -/
theorem Replacement.operand?_of_ne {value : Nat} {other : Operand}
    (replacement : Replacement instruction operand value changed) (different : other ≠ operand) :
    changed.operand? other = instruction.operand? other := by
  by_cases carried : other ∈ instruction.layout.operands
  · rw [operand?_of_mem carried, operand?_of_mem (replacement.layout ▸ carried)]
    refine congrArg some (Nat.eq_of_testBit_eq fun offset => ?_)
    simp only [Nat.testBit_mod_two_pow, Nat.testBit_div_two_pow]
    by_cases inside : offset < other.width
    · have covers : other.Covers (offset + other.place) := ⟨by omega, by omega⟩
      rw [replacement.testBit_word
        (Layout.not_covers carried replacement.carried different covers)]
    · simp only [inside, decide_false, Bool.false_and]
  · have missing := operand?_eq_none_iff.mpr carried
    rw [missing, operand?_eq_none_iff, replacement.layout]
    exact carried

theorem set_of_lt {value : UInt16} (large : operand.max < value.toNat) :
    instruction.set operand value = .error (.operandRange operand value) := by
  rw [set, Operand.check, if_neg (Nat.not_le_of_lt large)]
  rfl

theorem set_of_not_mem {value : UInt16} (fits : value.toNat ≤ operand.max)
    (missing : operand ∉ instruction.layout.operands) :
    instruction.set operand value =
      .error (.missingOperand operand instruction.layout instruction.word) := by
  rw [set, Operand.check, if_pos fits]
  simp only [bind, Except.bind, withOperand?_eq_none_iff.mpr missing]

/-- A write is granted exactly if the number fits and there is such a cell. -/
theorem exists_set_iff {value : UInt16} :
    (∃ changed, instruction.set operand value = .ok changed) ↔
      value.toNat ≤ operand.max ∧ operand ∈ instruction.layout.operands := by
  constructor
  · rintro ⟨changed, granted⟩
    have carried := (replacement_of_set granted).carried
    refine ⟨Nat.le_of_not_lt fun large => ?_, carried⟩
    rw [set_of_lt large] at granted
    cases granted
  · rintro ⟨fits, carried⟩
    rw [set, Operand.check, if_pos fits]
    cases replaced : instruction.withOperand? operand value.toNat with
    | some changed => exact ⟨changed, by simp only [bind, Except.bind]⟩
    | none => exact absurd carried (withOperand?_eq_none_iff.mp replaced)

/-- An edit that is granted writes its cell, and any other edit changes nothing. -/
theorem operand?_edit (instruction : Instruction) (edit : Edit) (operand : Operand) :
    (instruction.edit edit).operand? operand =
      if edit.operand = operand ∧ edit.value.toNat ≤ edit.operand.max ∧
          edit.operand ∈ instruction.layout.operands then some edit.value.toNat
      else instruction.operand? operand := by
  cases answered : instruction.set edit.operand edit.value with
  | ok changed =>
      have granted := exists_set_iff.mp ⟨changed, answered⟩
      have replacement := replacement_of_set answered
      simp only [Instruction.edit, answered, granted, and_self, and_true]
      split
      · next same => rw [← same, replacement.stored]
      · next different => exact replacement.operand?_of_ne (Ne.symm different)
  | error fault =>
      have refused : ¬ (edit.value.toNat ≤ edit.operand.max ∧
          edit.operand ∈ instruction.layout.operands) := fun fits => by
        obtain ⟨changed, granted⟩ := exists_set_iff.mpr fits
        cases answered.symm.trans granted
      simp only [Instruction.edit, answered, refused, and_false, if_false]

/-- Edits of different operands can change places. -/
theorem edit_edit_comm (instruction : Instruction) {first second : Edit}
    (different : first.operand ≠ second.operand) :
    (instruction.edit first).edit second = (instruction.edit second).edit first := by
  have family (first second : Edit) :
      instruction.SameFamily ((instruction.edit first).edit second) :=
    (instruction.sameFamily_edit first).trans (sameFamily_edit _ second)
  apply (family second first).eq_of_operands (family first second)
  intro operand
  simp only [operand?_edit, (instruction.sameFamily_edit first).layout,
    (instruction.sameFamily_edit second).layout]
  -- the cell belongs to one of the edits at most
  by_cases now : first.operand = operand
  · have other : ¬ second.operand = operand := fun same => different (now.trans same.symm)
    simp only [other, false_and, if_false]
  · simp only [now, false_and, if_false]

/-! ## Many writes -/

/-- The edits that are granted when one is tried after another. -/
def granted (instruction : Instruction) : List Edit → List Edit
  | [] => []
  | edit :: rest =>
      match instruction.set edit.operand edit.value with
      | .ok changed => edit :: changed.granted rest
      | .error _ => instruction.granted rest

/-- The number that the last of the edits of an operand gives. -/
def lastValue? (operand : Operand) (edits : List Edit) : Option UInt16 :=
  (edits.filter fun edit => edit.operand = operand).getLast?.map Edit.value

theorem lastValue?_cons (operand : Operand) (edit : Edit) (rest : List Edit) :
    lastValue? operand (edit :: rest) =
      (lastValue? operand rest).or (if edit.operand = operand then some edit.value else none) := by
  rw [lastValue?, lastValue?, List.filter_cons]
  by_cases same : edit.operand = operand
  · simp only [same, decide_true, if_true, List.getLast?_cons]
    cases (rest.filter fun edit => edit.operand = operand).getLast? <;> rfl
  · simp only [same, decide_false, if_false, Bool.false_eq_true, Option.or_none]

/-- A cell holds the number of the last write that was granted, or what it held at first. -/
theorem operand?_editAll (instruction : Instruction) (edits : List Edit) (operand : Operand) :
    (instruction.editAll edits).operand? operand =
      ((lastValue? operand (instruction.granted edits)).map UInt16.toNat).or
        (instruction.operand? operand) := by
  induction edits generalizing instruction with
  | nil => rfl
  | cons edit rest induction =>
      have later : instruction.editAll (edit :: rest) = (instruction.edit edit).editAll rest := rfl
      rw [later, induction, granted]
      cases answered : instruction.set edit.operand edit.value with
      | ok changed =>
          have replacement := replacement_of_set answered
          simp only [Instruction.edit, answered, lastValue?_cons]
          by_cases same : edit.operand = operand
          · rw [← same, replacement.stored]
            cases lastValue? edit.operand (changed.granted rest) <;> simp
          · rw [replacement.operand?_of_ne (Ne.symm same)]
            simp only [same, if_false, Option.or_none]
      | error fault => simp only [Instruction.edit, answered]

/-- Bits that belong to no cell that was written are as before. -/
theorem testBit_editAll (instruction : Instruction) (edits : List Edit) {bit : Nat}
    (outside : ∀ edit ∈ instruction.granted edits, ¬ edit.operand.Covers bit) :
    (instruction.editAll edits).word.toNat.testBit bit = instruction.word.toNat.testBit bit := by
  induction edits generalizing instruction with
  | nil => rfl
  | cons edit rest induction =>
      have later : instruction.editAll (edit :: rest) = (instruction.edit edit).editAll rest := rfl
      rw [granted] at outside
      rw [later, Instruction.edit]
      cases answered : instruction.set edit.operand edit.value with
      | ok changed =>
          rw [answered] at outside
          obtain ⟨now, others⟩ := List.forall_mem_cons.mp outside
          rw [induction changed others, (replacement_of_set answered).testBit_word now]
      | error fault =>
          rw [answered] at outside
          exact induction instruction outside

/-! ## Cells after an edit history -/

theorem get_editAll {word : UInt16} (edits : List Edit)
    (carried : operand ∈ (ofWord word).layout.operands) :
    ((ofWord word).editAll edits).get operand =
      .ok (((lastValue? operand ((ofWord word).granted edits)).map UInt16.toNat).getD
        (word.toNat / 2 ^ operand.place % 2 ^ operand.width)) := by
  have decoded := operand?_of_mem carried
  rw [word_ofWord] at decoded
  rw [get, operand?_editAll, decoded]
  cases lastValue? operand ((ofWord word).granted edits) <;> rfl

theorem get_of_not_mem (missing : operand ∉ instruction.layout.operands) :
    instruction.get operand =
      .error (.missingOperand operand instruction.layout instruction.word) := by
  rw [get, operand?_eq_none_iff.mpr missing]

/-- Whatever was tried on a decoded word, a write is granted exactly if the number fits and
the word's layout has the operand.  A number that is too large is refused before a missing
operand is, and a refused write changes nothing.  The operands of the layout can be read, and
no others.  Each holds the number of the last write that was granted to it, or else its bits
of the word.  Writes to different operands can change places, and all bits outside the
operands that were written are those of the word. -/
theorem operands_are_cells (word : UInt16) (edits : List Edit) :
    let original := ofWord word
    let edited := original.editAll edits
    (∀ operand value,
      ((∃ changed, edited.set operand value = .ok changed) ↔
        value.toNat ≤ operand.max ∧ operand ∈ original.layout.operands) ∧
      (operand.max < value.toNat →
        edited.set operand value = .error (.operandRange operand value)) ∧
      (value.toNat ≤ operand.max → operand ∉ original.layout.operands →
        edited.set operand value =
          .error (.missingOperand operand original.layout edited.word)) ∧
      ∀ fault, edited.set operand value = .error fault → edited.edit ⟨operand, value⟩ = edited) ∧
    (∀ operand, operand ∈ original.layout.operands → edited.get operand =
      .ok (((lastValue? operand (original.granted edits)).map UInt16.toNat).getD
        (word.toNat / 2 ^ operand.place % 2 ^ operand.width))) ∧
    (∀ operand, operand ∉ original.layout.operands → edited.get operand =
      .error (.missingOperand operand original.layout edited.word)) ∧
    (∀ first second : Edit, first.operand ≠ second.operand →
      (edited.edit first).edit second = (edited.edit second).edit first) ∧
    ∀ bit, (∀ edit ∈ original.granted edits, ¬ edit.operand.Covers bit) →
      edited.word.toNat.testBit bit = word.toNat.testBit bit := by
  intro original edited
  have layout : edited.layout = original.layout :=
    (original.sameFamily_editAll edits).layout
  refine ⟨fun operand value => ⟨?granted, set_of_lt, ?missing, ?unchanged⟩,
    fun operand => get_editAll edits, ?absent, fun first second => edit_edit_comm edited, ?bits⟩
  case granted =>
    rw [exists_set_iff, layout]
  case missing =>
    intro fits missing
    rw [set_of_not_mem fits (layout ▸ missing), layout]
  case unchanged =>
    intro fault refused
    rw [Instruction.edit, refused]
  case absent =>
    intro operand missing
    rw [get_of_not_mem (layout ▸ missing), layout]
  case bits =>
    intro bit outside
    rw [original.testBit_editAll edits outside, word_ofWord]

/-- Of four edits of a sprite operation one does not fit and one has no operand.  The first
register holds the number of the last edit, and the second one its nibble of the word. -/
theorem sprite_operands_are_cells :
    let edits : List Edit := [⟨.x, 5⟩, ⟨.y, 16⟩, ⟨.kk, 0⟩, ⟨.x, 7⟩]
    let edited := (ofWord 0xD123).editAll edits
    (ofWord 0xD123).granted edits = [⟨.x, 5⟩, ⟨.x, 7⟩] ∧ edited = ofWord 0xD723 ∧
    edited.get .x = .ok 7 ∧ edited.get .y = .ok 2 ∧
    edited.get .nnn = .error (.missingOperand .nnn .sprite 0xD723) ∧
    edited.set .kk 0x100 = .error (.operandRange .kk 0x100) ∧
    edited.set .kk 0xFF = .error (.missingOperand .kk .sprite 0xD723) ∧
    edited.edit ⟨.kk, 0xFF⟩ = edited ∧
    (edited.edit ⟨.y, 1⟩).edit ⟨.n, 15⟩ = (edited.edit ⟨.n, 15⟩).edit ⟨.y, 1⟩ ∧
    edited.word.toNat.testBit 7 = (0xD123 : UInt16).toNat.testBit 7 := by
  intro edits edited
  have word : edited.word = 0xD723 := by decide
  obtain ⟨writes, held, absent, swapped, kept⟩ := operands_are_cells 0xD123 edits
  obtain ⟨_, large, _⟩ := writes .kk 0x100
  obtain ⟨_, _, missing, unchanged⟩ := writes .kk 0xFF
  have refused := missing (by decide) (by decide)
  refine ⟨rfl, by decide, held .x (by decide), held .y (by decide), ?_,
    large (by decide), ?_, unchanged _ refused, swapped ⟨.y, 1⟩ ⟨.n, 15⟩ (by decide),
    kept 7 (by decide)⟩
  · rw [absent .nnn (by decide), word]
    rfl
  · rw [refused, word]
    rfl

end Instruction

end Chip8

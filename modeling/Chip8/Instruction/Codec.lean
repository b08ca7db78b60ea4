import Chip8.Instruction.Basic

/-!
# Words and instructions correspond

Decoding and encoding undo each other.  The header of an instruction is a nibble
and what stands behind it has twelve bits, so the quotient and the remainder of a
word by `4096` give both back.  Behind the header the operands are found the same
way, each by the quotient and remainder of its own place.
-/

namespace Chip8.Instruction

/-! ## Bounds -/

theorem header_lt (instruction : Instruction) : instruction.header < 16 := by
  cases instruction with
  | bare _ => exact Nat.succ_pos 15
  | address family _ => cases family <;> simp [header, AddressFamily.header]
  | single family _ _ => cases family <;> simp [header, SingleFamily.header]
  | immediate family _ _ => cases family <;> simp [header, ImmediateFamily.header]
  | pair family _ _ _ => cases family <;> simp [header, PairFamily.header]
  | sprite _ _ _ => simp [header]

theorem body_lt (instruction : Instruction) : instruction.body < 4096 := by
  cases instruction with
  | bare selector => exact selector.isLt
  | address _ nnn => exact nnn.isLt
  | single _ x selector =>
      have xBound := x.isLt
      have selectorBound := selector.toNat_lt
      simp only [body]
      omega
  | immediate _ x kk =>
      have xBound := x.isLt
      have kkBound := kk.toNat_lt
      simp only [body]
      omega
  | pair _ x y selector =>
      have xBound := x.isLt
      have yBound := y.isLt
      have selectorBound := selector.isLt
      simp only [body]
      omega
  | sprite x y n =>
      have xBound := x.isLt
      have yBound := y.isLt
      have nBound := n.isLt
      simp only [body]
      omega

theorem toNat_word (instruction : Instruction) :
    instruction.word.toNat = instruction.header * 4096 + instruction.body := by
  have headerBound := instruction.header_lt
  have bodyBound := instruction.body_lt
  simp only [word, UInt16.toNat_ofNat']
  omega

/-! ## Both ways -/

/-- Decoding the word of an instruction gives the instruction back. -/
@[simp]
theorem ofWord_word (instruction : Instruction) : ofWord instruction.word = instruction := by
  have total := instruction.toNat_word
  have bodyBound := instruction.body_lt
  have quotient : instruction.word.toNat / 4096 = instruction.header := by omega
  have remainder : instruction.word.toNat % 4096 = instruction.body := by omega
  unfold ofWord
  rw [quotient]
  cases instruction with
  | bare selector =>
      simp only [header, body] at *
      congr 1
      apply Fin.ext
      simpa [Fin.ofNat] using remainder
  | address family nnn =>
      cases family <;>
      · simp only [header, body, AddressFamily.header] at *
        congr 1
        apply Fin.ext
        simpa [Fin.ofNat] using remainder
  | single family x selector =>
      have xBound := x.isLt
      have selectorBound := selector.toNat_lt
      cases family <;>
      · simp only [header, body, SingleFamily.header] at *
        congr 1
        · apply Fin.ext
          simp only [Fin.ofNat]
          omega
        · apply UInt8.toNat_inj.mp
          rw [Word.toNat_low]
          omega
  | immediate family x kk =>
      have xBound := x.isLt
      have kkBound := kk.toNat_lt
      cases family <;>
      · simp only [header, body, ImmediateFamily.header] at *
        congr 1
        · apply Fin.ext
          simp only [Fin.ofNat]
          omega
        · apply UInt8.toNat_inj.mp
          rw [Word.toNat_low]
          omega
  | pair family x y selector =>
      have xBound := x.isLt
      have yBound := y.isLt
      have selectorBound := selector.isLt
      cases family <;>
      · simp only [header, body, PairFamily.header] at *
        congr 1 <;>
        · apply Fin.ext
          simp only [Fin.ofNat]
          omega
  | sprite x y n =>
      have xBound := x.isLt
      have yBound := y.isLt
      have nBound := n.isLt
      simp only [header, body] at *
      congr 1 <;>
      · apply Fin.ext
        simp only [Fin.ofNat]
        omega

/-- The header of a decoded word is the word's highest nibble. -/
theorem header_ofWord (word : UInt16) : (ofWord word).header = word.toNat / 4096 := by
  have bound := word.toNat_lt
  unfold ofWord
  split <;> simp_all [header, AddressFamily.header, SingleFamily.header,
    ImmediateFamily.header, PairFamily.header] <;> omega

/-- Behind the header of a decoded word stand the word's other three nibbles. -/
theorem body_ofWord (word : UInt16) : (ofWord word).body = word.toNat % 4096 := by
  unfold ofWord
  split <;> simp only [body, Fin.ofNat, Word.toNat_low] <;> omega

/-- Encoding a decoded word gives the word back. -/
@[simp]
theorem word_ofWord (word : UInt16) : (ofWord word).word = word := by
  apply UInt16.toNat_inj.mp
  rw [toNat_word, header_ofWord, body_ofWord]
  omega

end Chip8.Instruction

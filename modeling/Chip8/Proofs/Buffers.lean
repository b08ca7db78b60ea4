import Chip8.Instruction.Buffer
import Chip8.Proofs.Edits

/-!
# Instructions written to buffers

Reading and writing an instruction need the same two bytes and refuse the same offsets with
the same fault.  What was written is read back, and no other byte of the buffer changes.
Since words and instructions correspond, an instruction that was decoded, edited, written
and read is still the edited one.
-/

namespace Chip8.Instruction

variable {instruction : Instruction} {buffer after : Array UInt8} {offset : Nat}

/-! ## Reading -/

theorem readAt_eq_error (outside : ¬ offset + 2 ≤ buffer.size) :
    readAt buffer offset = .error (.outsideMemory offset 2 buffer.size) := by
  have missing : buffer[offset + 1]? = none := Array.getElem?_eq_none (by omega)
  rw [readAt, missing]
  cases buffer[offset]? <;> rfl

/-- Two bytes that make the word of an instruction are read as the instruction. -/
theorem readAt_of_bytes
    (first : buffer[offset]? = some (Word.high instruction.word))
    (second : buffer[offset + 1]? = some (Word.low instruction.word)) :
    readAt buffer offset = .ok instruction := by
  simp only [readAt, first, second, Word.ofBytes_high_low, ofWord_word]

/-! ## Writing -/

/-- The instruction stands at the offset of the second buffer, which agrees with the first
everywhere else. -/
structure Written (instruction : Instruction) (buffer : Array UInt8) (offset : Nat)
    (after : Array UInt8) : Prop where
  size : after.size = buffer.size
  read : readAt after offset = .ok instruction
  rest : ∀ other, other ≠ offset → other ≠ offset + 1 → after[other]? = buffer[other]?

theorem writeAt_eq_error (outside : ¬ offset + 2 ≤ buffer.size) :
    instruction.writeAt buffer offset = .error (.outsideMemory offset 2 buffer.size) := by
  rw [writeAt, dif_neg (by omega)]
  rfl

theorem exists_writeAt_eq_ok (instruction : Instruction) (within : offset + 2 ≤ buffer.size) :
    ∃ after, instruction.writeAt buffer offset = .ok after ∧
      instruction.Written buffer offset after := by
  have room : offset + 1 < buffer.size := by omega
  rw [writeAt, dif_pos room]
  refine ⟨_, rfl, ?size, readAt_of_bytes ?first ?second, ?rest⟩
  case size => rw [Array.size_set, Array.size_set]
  case first =>
    rw [Array.getElem?_set_ne _ (by omega)]
    exact Array.getElem?_set_self _
  case second => exact Array.getElem?_set_self _
  case rest =>
    intro other high low
    rw [Array.getElem?_set_ne _ (Ne.symm low), Array.getElem?_set_ne _ (Ne.symm high)]

/-- Writing is granted exactly where both bytes lie inside the buffer. -/
theorem writeAt_granted_iff :
    (∃ after, instruction.writeAt buffer offset = .ok after) ↔ offset + 2 ≤ buffer.size := by
  constructor
  · rintro ⟨after, granted⟩
    by_contra outside
    rw [writeAt_eq_error outside] at granted
    cases granted
  · intro within
    obtain ⟨after, granted, -⟩ := exists_writeAt_eq_ok instruction within
    exact ⟨after, granted⟩

theorem written_of_writeAt (granted : instruction.writeAt buffer offset = .ok after) :
    instruction.Written buffer offset after := by
  have within := writeAt_granted_iff.mp ⟨after, granted⟩
  obtain ⟨found, same, written⟩ := exists_writeAt_eq_ok instruction within
  rw [granted, Except.ok.injEq] at same
  exact same ▸ written

/-- Where writing is refused, reading is refused for the same reason. -/
theorem readAt_of_writeAt_refused {fault : Fault}
    (refused : instruction.writeAt buffer offset = .error fault) :
    fault = .outsideMemory offset 2 buffer.size ∧ readAt buffer offset = .error fault := by
  have outside : ¬ offset + 2 ≤ buffer.size := by
    intro within
    obtain ⟨after, granted⟩ := writeAt_granted_iff.mpr within
    rw [granted] at refused
    cases refused
  rw [writeAt_eq_error outside, Except.error.injEq] at refused
  subst refused
  exact ⟨rfl, readAt_eq_error outside⟩

/-- The buffer after an attempt to write, which is the one before if it is refused. -/
def bufferAfter (instruction : Instruction) (buffer : Array UInt8) (offset : Nat) :
    Array UInt8 :=
  match instruction.writeAt buffer offset with
  | .ok after => after
  | .error _ => buffer

theorem bufferAfter_of_refused {fault : Fault}
    (refused : instruction.writeAt buffer offset = .error fault) :
    instruction.bufferAfter buffer offset = buffer := by
  rw [bufferAfter, refused]

/-! ## Round trips -/

/-- The instruction survives being encoded, and being written wherever it can be written.
Where it cannot, the buffer stays as it is and nothing can be read there either. -/
structure RoundTrips (instruction : Instruction) : Prop where
  decoded : ofWord instruction.word = instruction
  granted : ∀ (buffer : Array UInt8) (offset : Nat),
    (∃ after, instruction.writeAt buffer offset = .ok after) ↔ offset + 2 ≤ buffer.size
  written : ∀ (buffer : Array UInt8) (offset : Nat) (after : Array UInt8),
    instruction.writeAt buffer offset = .ok after → instruction.Written buffer offset after
  refused : ∀ (buffer : Array UInt8) (offset : Nat) (fault : Fault),
    instruction.writeAt buffer offset = .error fault →
      instruction.bufferAfter buffer offset = buffer ∧
      fault = .outsideMemory offset 2 buffer.size ∧
      readAt buffer offset = .error fault

theorem roundTrips (instruction : Instruction) : instruction.RoundTrips where
  decoded := instruction.ofWord_word
  granted _ _ := writeAt_granted_iff
  written _ _ _ := written_of_writeAt
  refused _ _ _ refused := ⟨bufferAfter_of_refused refused, readAt_of_writeAt_refused refused⟩

/-- The header of an instruction has the instruction's layout. -/
theorem ofHeader?_header (instruction : Instruction) :
    Layout.ofHeader? instruction.header = some instruction.layout := by
  cases instruction with
  | bare _ => rfl
  | address family _ => cases family <;> rfl
  | single family _ _ => cases family <;> rfl
  | immediate family _ _ => cases family <;> rfl
  | pair family _ _ _ => cases family <;> rfl
  | sprite _ _ _ => rfl

/-- The header of every word has a layout, and the word is the one of its instruction.  An
instruction stays in its family however it is edited, a granted edit stores the number that
was given, and the edited instruction survives being encoded and being written. -/
theorem edited_instruction_round_trips :
    (∀ word : UInt16,
      Layout.ofHeader? (word.toNat / 4096) = some (ofWord word).layout ∧
      (ofWord word).word = word) ∧
    ∀ (original : Instruction) (edits : List Edit),
      original.SameFamily (original.editAll edits) ∧
      (∀ (operand : Operand) (value : UInt16) (changed : Instruction),
        (original.editAll edits).set operand value = .ok changed →
          changed.get operand = .ok value.toNat) ∧
      (original.editAll edits).RoundTrips := by
  refine ⟨fun word => ⟨?_, word_ofWord word⟩, fun original edits => ?_⟩
  · rw [← header_ofWord, ofHeader?_header]
  · exact ⟨original.sameFamily_editAll edits, fun _ _ _ => get_of_set, roundTrips _⟩

/-- Two of four edits of a sprite operation are refused.  The edited instruction fills the
last two bytes of a buffer of three, and one byte later it no longer fits. -/
theorem edited_sprite_round_trips :
    let original := ofWord 0xD123
    let edited := original.editAll [⟨.x, 5⟩, ⟨.y, 16⟩, ⟨.kk, 0⟩, ⟨.n, 15⟩]
    edited = .sprite 5 2 15 ∧ original.SameFamily edited ∧
    (∃ changed, edited.set .n 7 = .ok changed ∧ changed.get .n = .ok 7) ∧
    edited.writeAt #[9, 0, 0] 1 = .ok #[9, 0xD5, 0x2F] ∧
    edited.Written #[9, 0, 0] 1 #[9, 0xD5, 0x2F] ∧
    edited.writeAt #[9, 0, 0] 2 = .error (.outsideMemory 2 2 3) ∧
    readAt #[9, 0, 0] 2 = .error (.outsideMemory 2 2 3) := by
  obtain ⟨family, stored, trips⟩ := edited_instruction_round_trips.2 (ofWord 0xD123)
    [⟨.x, 5⟩, ⟨.y, 16⟩, ⟨.kk, 0⟩, ⟨.n, 15⟩]
  exact ⟨by decide, family, ⟨.sprite 5 2 7, by decide, stored .n 7 _ (by decide)⟩, by decide,
    trips.written _ _ _ (by decide), by decide, (trips.refused _ _ _ (by decide)).2.2⟩

end Chip8.Instruction

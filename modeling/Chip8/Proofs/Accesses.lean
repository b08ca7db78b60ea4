import Chip8.Proofs.Buffers
import Chip8.Proofs.Guards

/-!
# Accesses to memory

Seven operations access a store of bytes: bytes are read, filled or written, a word is read,
an instruction is decoded or encoded, and a sprite is drawn.  All of them are granted exactly
if the span that they need lies inside the store, and refused with one fault otherwise
(`Memory.access_of_within`, `Memory.access_of_not_within`).

The span is checked in numbers without bound there.  Here the accesses are computed once more
with addresses and lengths of 64 bits, where the end of a span may not be a word.  Memory
refuses such an end.  Instructions and sprites go on with the largest word in its place and
look up the bytes up to there.  No array has so many entries, so both come to the same
(`Memory.narrowAccess_eq`).
-/

namespace Chip8

/-! ## Ends of spans -/

namespace Span

variable {address length : UInt64} {size : Nat} {bytes : Array UInt8}

/-- The end of a span, unless it is no word of 64 bits. -/
def checkedEnd? (address length : UInt64) : Option Nat :=
  Guarded.fit Guarded.sizes (address.toNat + length.toNat)

/-- The end of a span, or the largest word of 64 bits if the end is no word. -/
def saturatedEnd (address length : UInt64) : Nat :=
  min (address.toNat + length.toNat) (Guarded.sizes - 1)

/-- The checked end of a span inside a store of the given size. -/
def narrowCheck (address length : UInt64) (size : Nat) : Except Fault Nat :=
  match checkedEnd? address length with
  | some stop =>
      if stop ≤ size then .ok stop
      else .error (.outsideMemory address.toNat length.toNat size)
  | none => .error (.outsideMemory address.toNat length.toNat size)

/-- The bytes of a span up to its saturated end, if they are there. -/
def lookUp (bytes : Array UInt8) (address length : UInt64) : Option (List UInt8) :=
  Guarded.slice bytes address.toNat (saturatedEnd address length)

theorem narrowCheck_of_within (small : size < Guarded.sizes)
    (within : address.toNat + length.toNat ≤ size) :
    narrowCheck address length size = .ok (address.toNat + length.toNat) := by
  simp only [narrowCheck, checkedEnd?, Guarded.fit_of_lt (Nat.lt_of_le_of_lt within small),
    if_pos within]

theorem narrowCheck_of_not_within (outside : ¬ address.toNat + length.toNat ≤ size) :
    narrowCheck address length size =
      .error (.outsideMemory address.toNat length.toNat size) := by
  rw [narrowCheck, checkedEnd?, Guarded.fit]
  split
  · next stop fits =>
      split at fits
      · obtain rfl := Option.some.inj fits
        exact if_neg outside
      · cases fits
  · rfl

theorem lookUp_of_within (small : bytes.size < Guarded.sizes)
    (within : address.toNat + length.toNat ≤ bytes.size) :
    lookUp bytes address length =
      some (bytes.extract address.toNat (address.toNat + length.toNat)).toList := by
  have exactly : saturatedEnd address length = address.toNat + length.toNat := by
    rw [saturatedEnd]
    omega
  rw [lookUp, exactly, Guarded.slice_of_within within]

/-- Neither the end of the span nor the largest word is an end inside the store. -/
theorem lookUp_of_not_within (small : bytes.size + 1 < Guarded.sizes)
    (outside : ¬ address.toNat + length.toNat ≤ bytes.size) :
    lookUp bytes address length = none := by
  have beyond : bytes.size < saturatedEnd address length := by
    rw [saturatedEnd]
    omega
  exact if_neg fun inside => Nat.not_le_of_lt beyond inside.2

end Span

/-! ## Seven accesses -/

/-- What can be done with the bytes from an address on. -/
inductive Access where
  | read (length : UInt64)
  | fill (length : UInt64) (byte : UInt8)
  | write (data : List UInt8) (short : data.length < Guarded.allocatable)
  | word
  | decode
  | encode (instruction : Instruction)
  | draw (screen : Screen) (x y : Nat) (rows : UInt64)

namespace Access

/-- What an access comes to. -/
inductive Yield where
  | bytes (data : List UInt8)
  | memory (memory : Memory)
  | word (word : UInt16)
  | instruction (instruction : Instruction)
  | drawing (screen : Screen) (collision : Bool)

/-- The number of bytes that an access needs. -/
def length : Access → UInt64
  | .read length => length
  | .fill length _ => length
  | .write data _ => UInt64.ofNat data.length
  | .word => 2
  | .decode => 2
  | .encode _ => 2
  | .draw _ _ _ rows => rows

theorem toNat_length_write {data : List UInt8} (short : data.length < Guarded.allocatable) :
    (write data short).length.toNat = data.length := by
  rw [Guarded.allocatable] at short
  simp only [length, UInt64.toNat_ofNat']
  omega

end Access

namespace Memory

/-- Access the bytes from an address on. -/
def access (memory : Memory) (address : Nat) : Access → Except Fault Access.Yield
  | .read length => (memory.read address length.toNat).map .bytes
  | .fill length byte => (memory.fill address length.toNat byte).map .memory
  | .write data _ => (memory.write address data).map .memory
  | .word => (memory.word address).map .word
  | .decode => (Instruction.readAt memory.bytes address).map .instruction
  | .encode instruction => (instruction.writeAt memory.bytes address).map (.memory ⟨·⟩)
  | .draw screen x y rows =>
      (screen.drawFrom x y memory.bytes address rows.toNat).map fun drawing =>
        .drawing drawing.1 drawing.2

/-- Access the bytes from an address on, with addresses and lengths of 64 bits. -/
def narrowAccess (memory : Memory) (address : UInt64) : Access → Except Fault Access.Yield
  | .read length => do
      let stop ← Span.narrowCheck address length memory.size
      return .bytes (memory.bytes.extract address.toNat stop).toList
  | .fill length byte => do
      let stop ← Span.narrowCheck address length memory.size
      let data := List.replicate (stop - address.toNat) byte
      return .memory ⟨overwrite memory.bytes address.toNat data⟩
  | .write data _ => do
      let _ ← Span.narrowCheck address (UInt64.ofNat data.length) memory.size
      return .memory ⟨overwrite memory.bytes address.toNat data⟩
  | .word => do
      let stop ← Span.narrowCheck address 2 memory.size
      match (memory.bytes.extract address.toNat stop).toList with
      | [high, low] => return .word (Word.ofBytes high low)
      | _ => throw (.outsideMemory address.toNat 2 memory.size)
  | .decode =>
      match Span.lookUp memory.bytes address 2 with
      | some [high, low] => .ok (.instruction (Instruction.ofWord (Word.ofBytes high low)))
      | _ => .error (.outsideMemory address.toNat 2 memory.size)
  | .encode instruction =>
      match Span.lookUp memory.bytes address 2 with
      | some _ =>
          .ok (.memory ⟨overwrite memory.bytes address.toNat (Word.bytes instruction.word)⟩)
      | none => .error (.outsideMemory address.toNat 2 memory.size)
  | .draw screen x y rows =>
      match Span.lookUp memory.bytes address rows with
      | some data => .ok (.drawing (screen.draw x y data).1 (screen.draw x y data).2)
      | none => .error (.outsideMemory address.toNat rows.toNat memory.size)

variable {memory : Memory} {address : UInt64} {start : Nat}

/-! ## What is granted -/

theorem fill_of_within {length : Nat} (byte : UInt8) (within : start + length ≤ memory.size) :
    memory.fill start length byte =
      .ok ⟨overwrite memory.bytes start (List.replicate length byte)⟩ := by
  rw [fill, Span.check_of_within (by exact within)]
  rfl

theorem fill_of_not_within {length : Nat} (byte : UInt8)
    (outside : ¬ start + length ≤ memory.size) :
    memory.fill start length byte = .error (.outsideMemory start length memory.size) := by
  rw [fill, Span.check_of_not_within (by exact outside)]
  rfl

/-- The bytes of a span, cut out of all bytes. -/
theorem extract_of_within {length : Nat} (within : start + length ≤ memory.size) :
    (memory.bytes.extract start (start + length)).toList =
      (List.range length).map fun offset => memory.byteAt (start + offset) := by
  have cut : memory.read start length =
      .ok (memory.bytes.extract start (start + length)).toList := by
    rw [read, Span.check_of_within (by exact within)]
    rfl
  exact Except.ok.inj (cut.symm.trans (read_eq_ok within))

theorem getElem?_of_lt {other : Nat} (bound : other < memory.size) :
    memory.bytes[other]? = some (memory.byteAt other) := by
  have bound : other < memory.bytes.size := bound
  rw [byteAt, Array.getD, dif_pos bound]
  exact Array.getElem?_eq_getElem bound

theorem readAt_of_within (within : start + 2 ≤ memory.size) :
    Instruction.readAt memory.bytes start =
      .ok (Instruction.ofWord
        (Word.ofBytes (memory.byteAt start) (memory.byteAt (start + 1)))) := by
  apply Instruction.readAt_of_bytes
  · rw [Instruction.word_ofWord, Word.high_ofBytes]
    exact getElem?_of_lt (Nat.lt_of_succ_lt within)
  · rw [Instruction.word_ofWord, Word.low_ofBytes]
    exact getElem?_of_lt within

theorem writeAt_of_within (instruction : Instruction) (within : start + 2 ≤ memory.size) :
    instruction.writeAt memory.bytes start =
      .ok (overwrite memory.bytes start (Word.bytes instruction.word)) := by
  have room : start + 1 < memory.bytes.size := within
  rw [Instruction.writeAt, dif_pos room]
  simp [Word.bytes, overwrite, Array.setIfInBounds, room, Nat.lt_of_succ_lt room]

/-- The two ways to an instruction agree: it is decoded where it stands, or its word is read
first. -/
theorem readAt_eq_word (memory : Memory) (start : Nat) :
    Instruction.readAt memory.bytes start = (memory.word start).map Instruction.ofWord := by
  by_cases within : start + 2 ≤ memory.size
  · rw [readAt_of_within within, word_eq_ok within]
    rfl
  · rw [Instruction.readAt_eq_error within, word_eq_error within]
    rfl

/-- What an access comes to if its span lies inside memory. -/
def granted (memory : Memory) (start : Nat) : Access → Access.Yield
  | .read length =>
      .bytes ((List.range length.toNat).map fun offset => memory.byteAt (start + offset))
  | .fill length byte =>
      .memory ⟨overwrite memory.bytes start (List.replicate length.toNat byte)⟩
  | .write data _ => .memory ⟨overwrite memory.bytes start data⟩
  | .word => .word (Word.ofBytes (memory.byteAt start) (memory.byteAt (start + 1)))
  | .decode =>
      .instruction (Instruction.ofWord
        (Word.ofBytes (memory.byteAt start) (memory.byteAt (start + 1))))
  | .encode instruction =>
      .memory ⟨overwrite memory.bytes start (Word.bytes instruction.word)⟩
  | .draw screen x y rows =>
      let data := (memory.bytes.extract start (start + rows.toNat)).toList
      .drawing (screen.draw x y data).1 (screen.draw x y data).2

theorem access_of_within {access : Access}
    (within : start + access.length.toNat ≤ memory.size) :
    memory.access start access = .ok (memory.granted start access) := by
  cases access with
  | read length =>
      rw [Memory.access, read_eq_ok (by exact within)]
      rfl
  | fill length byte =>
      rw [Memory.access, fill_of_within byte (by exact within)]
      rfl
  | write data short =>
      rw [Access.toNat_length_write] at within
      rw [Memory.access, write_eq_ok within]
      rfl
  | word =>
      rw [Memory.access, word_eq_ok (by exact within)]
      rfl
  | decode =>
      rw [Memory.access, readAt_of_within (by exact within)]
      rfl
  | encode instruction =>
      rw [Memory.access, writeAt_of_within instruction (by exact within)]
      rfl
  | draw screen x y rows =>
      rw [Memory.access, Screen.drawFrom_eq_draw _ _ _ (by exact within)]
      rfl

theorem access_of_not_within {access : Access}
    (outside : ¬ start + access.length.toNat ≤ memory.size) :
    memory.access start access =
      .error (.outsideMemory start access.length.toNat memory.size) := by
  cases access with
  | read length =>
      rw [Memory.access, read_eq_error (by exact outside)]
      rfl
  | fill length byte =>
      rw [Memory.access, fill_of_not_within byte (by exact outside)]
      rfl
  | write data short =>
      rw [Access.toNat_length_write] at outside ⊢
      rw [Memory.access, write_eq_error outside]
      rfl
  | word =>
      rw [Memory.access, word_eq_error (by exact outside)]
      rfl
  | decode =>
      rw [Memory.access, Instruction.readAt_eq_error (by exact outside)]
      rfl
  | encode instruction =>
      rw [Memory.access, Instruction.writeAt_eq_error (by exact outside)]
      rfl
  | draw screen x y rows =>
      rw [Memory.access, Screen.drawFrom_eq_error _ _ _ (by exact outside)]
      rfl

theorem narrowAccess_of_within (small : memory.size < Guarded.sizes) {access : Access}
    (within : address.toNat + access.length.toNat ≤ memory.size) :
    memory.narrowAccess address access = .ok (memory.granted address.toNat access) := by
  cases access with
  | read length =>
      rw [narrowAccess, Span.narrowCheck_of_within small (by exact within)]
      exact congrArg (Except.ok ∘ Access.Yield.bytes) (extract_of_within within)
  | fill length byte =>
      rw [narrowAccess, Span.narrowCheck_of_within small (by exact within)]
      simp only [bind, Except.bind, Nat.add_sub_cancel_left]
      rfl
  | write data short =>
      rw [narrowAccess, Span.narrowCheck_of_within small (by exact within)]
      rfl
  | word =>
      rw [narrowAccess, Span.narrowCheck_of_within small (by exact within)]
      simp only [bind, Except.bind]
      rw [extract_of_within (by exact within)]
      rfl
  | decode =>
      rw [narrowAccess, Span.lookUp_of_within small (by exact within),
        extract_of_within (by exact within)]
      rfl
  | encode instruction =>
      rw [narrowAccess, Span.lookUp_of_within small (by exact within)]
      rfl
  | draw screen x y rows =>
      rw [narrowAccess, Span.lookUp_of_within small (by exact within)]
      rfl

theorem narrowAccess_of_not_within (small : memory.size + 1 < Guarded.sizes) {access : Access}
    (outside : ¬ address.toNat + access.length.toNat ≤ memory.size) :
    memory.narrowAccess address access =
      .error (.outsideMemory address.toNat access.length.toNat memory.size) := by
  cases access with
  | read length | fill length byte | write data short | word =>
      rw [narrowAccess, Span.narrowCheck_of_not_within (by exact outside)]
      rfl
  | decode | encode instruction | draw screen x y rows =>
      rw [narrowAccess, Span.lookUp_of_not_within small (by exact outside)]
      rfl

/-! ## One rule -/

/-- The span of the access decides alone whether it is granted.  What is refused names the
span and the size of memory. -/
structure Obeys (memory : Memory) (start : Nat) (access : Access)
    (result : Except Fault Access.Yield) : Prop where
  granted : (∃ yield, result = .ok yield) ↔ start + access.length.toNat ≤ memory.size
  refused : ∀ fault, result = .error fault ↔
    ¬ start + access.length.toNat ≤ memory.size ∧
      fault = .outsideMemory start access.length.toNat memory.size

theorem obeys_access (memory : Memory) (start : Nat) (access : Access) :
    memory.Obeys start access (memory.access start access) := by
  by_cases within : start + access.length.toNat ≤ memory.size
  · rw [access_of_within within]
    refine ⟨⟨fun _ => within, fun _ => ⟨_, rfl⟩⟩, fun fault => ⟨nofun, ?_⟩⟩
    exact fun outside => absurd within outside.1
  · rw [access_of_not_within within]
    refine ⟨⟨nofun, fun inside => absurd inside within⟩, fun fault => ?_⟩
    rw [Except.error.injEq, eq_comm]
    exact ⟨fun same => ⟨within, same⟩, And.right⟩

/-- In a memory that can be made, the accesses with ends of 64 bits are the plain ones. -/
theorem narrowAccess_eq (allocated : memory.size < Guarded.allocatable) (access : Access) :
    memory.narrowAccess address access = memory.access address.toNat access := by
  have small : memory.size + 1 < Guarded.sizes :=
    Nat.lt_of_le_of_lt (Nat.succ_le_of_lt allocated) (by decide)
  by_cases within : address.toNat + access.length.toNat ≤ memory.size
  · rw [access_of_within within, narrowAccess_of_within (Nat.lt_of_succ_lt small) within]
  · rw [access_of_not_within within, narrowAccess_of_not_within small within]

/-- Every access is granted or refused by one rule about its span, and an instruction is
decoded exactly as its word is read.  In a memory that can be made the rule holds for accesses
with ends of 64 bits too: whether an end that is no word is refused or replaced by the largest
word makes no difference. -/
theorem every_access_obeys_one_rule (memory : Memory) :
    (∀ start access, memory.Obeys start access (memory.access start access)) ∧
    (∀ start, Instruction.readAt memory.bytes start =
      (memory.word start).map Instruction.ofWord) ∧
    (memory.size < Guarded.allocatable → ∀ (address : UInt64) (access : Access),
      memory.narrowAccess address access = memory.access address.toNat access ∧
      memory.Obeys address.toNat access (memory.narrowAccess address access)) := by
  refine ⟨memory.obeys_access, memory.readAt_eq_word, fun allocated address access => ?_⟩
  have same : memory.narrowAccess address access = memory.access address.toNat access :=
    narrowAccess_eq allocated access
  exact ⟨same, same ▸ memory.obeys_access _ access⟩

/-- Two ends that are no words, one of them saturated, and two spans without bytes, one of them
behind the end of memory. -/
theorem ends_beyond_words_refused :
    let memory := blank 8
    memory.size < Guarded.allocatable ∧
    memory.narrowAccess 0xFFFFFFFFFFFFFFFF .decode =
      .error (.outsideMemory 0xFFFFFFFFFFFFFFFF 2 8) ∧
    memory.narrowAccess 2 (.read 0xFFFFFFFFFFFFFFFF) =
      .error (.outsideMemory 2 0xFFFFFFFFFFFFFFFF 8) ∧
    (∃ yield, memory.narrowAccess 8 (.fill 0 7) = .ok yield) ∧
    memory.narrowAccess 9 (.fill 0 7) = .error (.outsideMemory 9 0 8) := by
  have allocated : (blank 8).size < Guarded.allocatable := by decide
  obtain ⟨_, _, narrow⟩ := every_access_obeys_one_rule (blank 8)
  refine ⟨allocated, ?_, ?_, ?_, ?_⟩
  · exact ((narrow allocated _ _).2.refused _).mpr ⟨by decide, rfl⟩
  · exact ((narrow allocated _ _).2.refused _).mpr ⟨by decide, rfl⟩
  · exact (narrow allocated _ _).2.granted.mpr (by decide)
  · exact ((narrow allocated _ _).2.refused _).mpr ⟨by decide, rfl⟩

end Memory

end Chip8

import Chip8.Memory

/-!
# Bytes of a memory

A memory is determined by its size and its bytes.  A write is described by what
every byte is afterwards: the bytes of its span come from the data, and all others
are as before.  Reading gives the bytes of a span in the order of their addresses,
so a word is made of two neighbouring bytes.
-/

namespace Chip8.Memory

/-- The byte at an address, zero outside memory. -/
def byteAt (memory : Memory) (address : Nat) : UInt8 :=
  memory.bytes.getD address 0

/-- A memory is determined by its size and its bytes. -/
theorem eq_of_bytes {first second : Memory} (sizes : second.size = first.size)
    (bytes : ∀ address, address < first.size → second.byteAt address = first.byteAt address) :
    second = first := by
  have arrays : second.bytes = first.bytes := by
    apply Array.ext
    · exact sizes
    · intro index secondBound firstBound
      have same := bytes index firstBound
      simpa [byteAt, Array.getD, firstBound, secondBound] using same
  cases first
  cases second
  exact congrArg Memory.mk arrays

/-! ## Writing -/

theorem getD_setIfInBounds {bytes : Array UInt8} {address other : Nat} (byte : UInt8)
    (bound : other < bytes.size) :
    (bytes.setIfInBounds address byte).getD other 0 =
      if address = other then byte else bytes.getD other 0 := by
  simp [Array.getD, bound, Array.getElem_setIfInBounds]

/-- The bytes after a write: those of the span come from the data. -/
theorem getD_overwrite {bytes : Array UInt8} {other : Nat} (bound : other < bytes.size)
    (address : Nat) (data : List UInt8) :
    (overwrite bytes address data).getD other 0 =
      if address ≤ other ∧ other < address + data.length then data.getD (other - address) 0
      else bytes.getD other 0 := by
  induction data generalizing bytes address with
  | nil =>
      rw [overwrite, if_neg]
      simp only [List.length_nil]
      omega
  | cons byte rest induction =>
      have kept : other < (bytes.setIfInBounds address byte).size := by
        rw [Array.size_setIfInBounds]
        exact bound
      rw [overwrite, induction kept, getD_setIfInBounds byte bound, List.length_cons]
      by_cases front : address = other
      · subst front
        rw [if_neg (by omega), if_pos rfl, if_pos (by omega), Nat.sub_self]
        rfl
      · rw [if_neg front]
        by_cases inside : address + 1 ≤ other ∧ other < address + 1 + rest.length
        · rw [if_pos inside, if_pos (by omega)]
          have shift : other - address = other - (address + 1) + 1 := by omega
          rw [shift, List.getD_cons_succ]
        · rw [if_neg inside, if_neg (by omega)]

/-- The data stands at the address afterwards, and all other bytes are as before. -/
structure Stored (before : Memory) (address : Nat) (data : List UInt8) (after : Memory) :
    Prop where
  within : address + data.length ≤ before.size
  size : after.size = before.size
  bytes : ∀ other, other < before.size →
    after.byteAt other =
      if address ≤ other ∧ other < address + data.length then data.getD (other - address) 0
      else before.byteAt other

theorem stored_overwrite {memory : Memory} {address : Nat} {data : List UInt8}
    (within : address + data.length ≤ memory.size) :
    memory.Stored address data ⟨overwrite memory.bytes address data⟩ :=
  ⟨within, size_overwrite _ _ _, fun _ bound => getD_overwrite bound address data⟩

/-- Two writes of the same data to the same address have the same result. -/
theorem Stored.unique {before first second : Memory} {address : Nat} {data : List UInt8}
    (left : before.Stored address data first) (right : before.Stored address data second) :
    second = first := by
  apply eq_of_bytes (right.size.trans left.size.symm)
  intro other bound
  rw [left.size] at bound
  rw [left.bytes other bound, right.bytes other bound]

theorem write_eq_error {memory : Memory} {address : Nat} {data : List UInt8}
    (outside : ¬ address + data.length ≤ memory.size) :
    memory.write address data = .error (.outsideMemory address data.length memory.size) := by
  rw [write, @Span.check_of_not_within ⟨address, data.length⟩ memory.size outside]
  rfl

theorem write_eq_ok {memory : Memory} {address : Nat} {data : List UInt8}
    (within : address + data.length ≤ memory.size) :
    memory.write address data = .ok ⟨overwrite memory.bytes address data⟩ := by
  rw [write, @Span.check_of_within ⟨address, data.length⟩ memory.size within]
  rfl

/-- A write succeeds with exactly the memory in which the data is stored. -/
theorem write_eq_ok_iff {memory after : Memory} {address : Nat} {data : List UInt8} :
    memory.write address data = .ok after ↔ memory.Stored address data after := by
  by_cases within : address + data.length ≤ memory.size
  · rw [write_eq_ok within, Except.ok.injEq]
    constructor
    · rintro rfl
      exact stored_overwrite within
    · exact fun stored => stored.unique (stored_overwrite within)
  · rw [write_eq_error within]
    constructor
    · intro impossible
      cases impossible
    · exact fun stored => absurd stored.within within

/-! ## Reading -/

theorem read_eq_error {memory : Memory} {address length : Nat}
    (outside : ¬ address + length ≤ memory.size) :
    memory.read address length = .error (.outsideMemory address length memory.size) := by
  rw [read, @Span.check_of_not_within ⟨address, length⟩ memory.size outside]
  rfl

/-- Reading gives the bytes of the span in the order of their addresses. -/
theorem read_eq_ok {memory : Memory} {address length : Nat}
    (within : address + length ≤ memory.size) :
    memory.read address length =
      .ok ((List.range length).map fun offset => memory.byteAt (address + offset)) := by
  rw [read, @Span.check_of_within ⟨address, length⟩ memory.size within]
  refine congrArg Except.ok (List.ext_getElem ?_ fun offset left right => ?_)
  · simp only [Array.length_toList, Array.size_extract, List.length_map, List.length_range]
    rw [Memory.size] at within
    omega
  · have bound : address + offset < memory.bytes.size := by
      rw [List.length_map, List.length_range] at right
      rw [Memory.size] at within
      omega
    simp [byteAt, Array.getD, bound]

/-- A span whose bytes are the data reads as the data. -/
theorem read_of_bytes {memory : Memory} {address : Nat} {data : List UInt8}
    (within : address + data.length ≤ memory.size)
    (bytes : ∀ offset, offset < data.length →
      memory.byteAt (address + offset) = data.getD offset 0) :
    memory.read address data.length = .ok data := by
  rw [read_eq_ok within]
  refine congrArg Except.ok (List.ext_getElem (by simp) fun offset _ bound => ?_)
  rw [List.getElem_map, List.getElem_range, bytes offset bound]
  simp [bound]

/-- What was written can be read. -/
theorem Stored.read {before after : Memory} {address : Nat} {data : List UInt8}
    (stored : before.Stored address data after) : after.read address data.length = .ok data := by
  have within := stored.within
  apply read_of_bytes
  · rwa [stored.size]
  · intro offset bound
    rw [stored.bytes _ (by omega), if_pos (by omega), Nat.add_sub_cancel_left]

/-- The word stands at the address, its more significant byte first. -/
structure HoldsWord (memory : Memory) (address : Nat) (word : UInt16) : Prop where
  within : address + 2 ≤ memory.size
  value : word.toNat = (memory.byteAt address).toNat * 256 + (memory.byteAt (address + 1)).toNat

/-- Only one word stands at an address. -/
theorem HoldsWord.unique {memory : Memory} {address : Nat} {first second : UInt16}
    (left : memory.HoldsWord address first) (right : memory.HoldsWord address second) :
    first = second :=
  UInt16.toNat_inj.mp (left.value.trans right.value.symm)

theorem word_eq_error {memory : Memory} {address : Nat} (outside : ¬ address + 2 ≤ memory.size) :
    memory.word address = .error (.outsideMemory address 2 memory.size) := by
  rw [word, read_eq_error outside]
  rfl

theorem word_eq_ok {memory : Memory} {address : Nat} (within : address + 2 ≤ memory.size) :
    memory.word address =
      .ok (Word.ofBytes (memory.byteAt address) (memory.byteAt (address + 1))) := by
  rw [word, read_eq_ok within]
  rfl

theorem word_eq_ok_iff {memory : Memory} {address : Nat} {word : UInt16} :
    memory.word address = .ok word ↔ memory.HoldsWord address word := by
  by_cases within : address + 2 ≤ memory.size
  · rw [word_eq_ok within, Except.ok.injEq]
    constructor
    · rintro rfl
      exact ⟨within, Word.toNat_ofBytes _ _⟩
    · intro held
      apply UInt16.toNat_inj.mp
      rw [held.value, Word.toNat_ofBytes]
  · rw [word_eq_error within]
    constructor
    · intro impossible
      cases impossible
    · exact fun held => absurd held.within within

end Chip8.Memory

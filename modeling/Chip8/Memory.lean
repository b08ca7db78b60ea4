import Chip8.Span
import Chip8.Word

/-!
# Memory

Memory is a fixed number of bytes that start at zero.  Reading and writing name
a span and share its bounds rule, so a refused write has written nothing.  A
write replaces exactly the bytes of its span, and the size never changes.
-/

namespace Chip8

/-- A fixed number of bytes, addressed from zero. -/
structure Memory where
  /-- The bytes in the order of their addresses. -/
  bytes : Array UInt8
deriving Repr, DecidableEq

namespace Memory

/-- The number of bytes. -/
def size (memory : Memory) : Nat :=
  memory.bytes.size

/-- Memory of the given size with every byte zero. -/
def blank (size : Nat) : Memory :=
  ⟨Array.replicate size 0⟩

@[simp]
theorem size_blank (size : Nat) : (blank size).size = size := by
  simp [blank, Memory.size]

/-! ## Reading -/

/-- The bytes of a span. -/
def read (memory : Memory) (address length : Nat) : Except Fault (List UInt8) := do
  Span.check ⟨address, length⟩ memory.size
  return (memory.bytes.extract address (address + length)).toList

/-- The word whose more significant byte stands at the address. -/
def word (memory : Memory) (address : Nat) : Except Fault UInt16 := do
  match ← memory.read address 2 with
  | [high, low] => return Word.ofBytes high low
  | _ => throw (.outsideMemory address 2 memory.size)

/-! ## Writing -/

/-- Bytes with consecutive ones replaced, starting at the address. -/
def overwrite (bytes : Array UInt8) (address : Nat) : List UInt8 → Array UInt8
  | [] => bytes
  | byte :: rest => overwrite (bytes.setIfInBounds address byte) (address + 1) rest

@[simp]
theorem size_overwrite (bytes : Array UInt8) (address : Nat) (data : List UInt8) :
    (overwrite bytes address data).size = bytes.size := by
  induction data generalizing bytes address with
  | nil => rfl
  | cons byte rest induction =>
      rw [overwrite, induction]
      exact Array.size_setIfInBounds

/-- Memory with the data written at the address. -/
def write (memory : Memory) (address : Nat) (data : List UInt8) : Except Fault Memory := do
  Span.check ⟨address, data.length⟩ memory.size
  return ⟨overwrite memory.bytes address data⟩

/-- Memory with every byte of a span set to one value. -/
def fill (memory : Memory) (address length : Nat) (byte : UInt8) : Except Fault Memory := do
  Span.check ⟨address, length⟩ memory.size
  return ⟨overwrite memory.bytes address (List.replicate length byte)⟩

end Memory

end Chip8

import Chip8.Fault

/-!
# Spans of bytes

Every access to a store of bytes names a span: an address and a length.  One
rule holds everywhere.  The span is granted if its end is not past the end of
the store, and refused as a whole otherwise.  Addresses and lengths are natural
numbers, so the end of a span is never cut off.  A span without bytes is granted
up to and including the end of the store.
-/

namespace Chip8

/-- A run of consecutive addresses. -/
structure Span where
  /-- The first address. -/
  address : Nat
  /-- The number of bytes. -/
  length : Nat
deriving Repr, DecidableEq

namespace Span

/-- The span lies inside a store of the given size. -/
def Within (span : Span) (size : Nat) : Prop :=
  span.address + span.length ≤ size

instance (span : Span) (size : Nat) : Decidable (span.Within size) :=
  inferInstanceAs (Decidable (span.address + span.length ≤ size))

/-- Refuse a span that leaves a store of the given size. -/
def check (span : Span) (size : Nat) : Except Fault Unit :=
  if span.Within size then .ok ()
  else .error (.outsideMemory span.address span.length size)

theorem check_of_within {span : Span} {size : Nat} (within : span.Within size) :
    span.check size = .ok () := by
  simp [check, within]

theorem check_of_not_within {span : Span} {size : Nat} (outside : ¬ span.Within size) :
    span.check size = .error (.outsideMemory span.address span.length size) := by
  simp [check, outside]

end Span

end Chip8

import Chip8.Text.Hex

/-!
# Breakpoints

A breakpoint is a program address with a name.  The table of breakpoints holds at
most one for each address, in ascending order of the addresses.
-/

namespace Chip8

/-- A program address with a name. -/
structure Breakpoint where
  /-- Where the program is to stop. -/
  address : UInt16
  /-- How the place is called. -/
  name : String
deriving Repr, DecidableEq

/-- A breakpoint under the given name, or under one made from its address. -/
def Breakpoint.ofAddress (address : UInt16) (name? : Option String) : Breakpoint :=
  { address, name := name?.getD ("breakpoint-" ++ Hex.markedSmall address.toNat) }

/-! ## Entries -/

namespace Breakpoints

/-- Entries with one more, which replaces an entry of the same address. -/
def insertEntry (added : Breakpoint) : List Breakpoint → List Breakpoint
  | [] => [added]
  | entry :: rest =>
      if added.address < entry.address then added :: entry :: rest
      else if entry.address < added.address then entry :: insertEntry added rest
      else added :: rest

/-- An entry after an insertion is the inserted one or was there before. -/
theorem mem_insertEntry {added found : Breakpoint} {entries : List Breakpoint}
    (membership : found ∈ insertEntry added entries) : found = added ∨ found ∈ entries := by
  induction entries with
  | nil =>
      rw [insertEntry, List.mem_singleton] at membership
      exact Or.inl membership
  | cons entry rest induction =>
      simp only [insertEntry] at membership
      split at membership
      · exact List.mem_cons.mp membership
      · split at membership
        · rcases List.mem_cons.mp membership with same | later
          · exact Or.inr (List.mem_cons.mpr (Or.inl same))
          · exact (induction later).imp id (List.mem_cons_of_mem _)
        · exact (List.mem_cons.mp membership).imp id (List.mem_cons_of_mem _)

/-- Insertion keeps the addresses ascending. -/
theorem pairwise_insertEntry {added : Breakpoint} {entries : List Breakpoint}
    (ascending : entries.Pairwise (·.address < ·.address)) :
    (insertEntry added entries).Pairwise (·.address < ·.address) := by
  induction entries with
  | nil => exact List.pairwise_singleton _ _
  | cons entry rest induction =>
      obtain ⟨first, tail⟩ := List.pairwise_cons.mp ascending
      simp only [insertEntry]
      split
      · next before =>
          refine List.pairwise_cons.mpr ⟨fun found membership => ?_, ascending⟩
          rcases List.mem_cons.mp membership with rfl | later
          · exact before
          · exact UInt16.lt_trans before (first found later)
      · next notBefore =>
          split
          · next after =>
              refine List.pairwise_cons.mpr ⟨fun found membership => ?_, induction tail⟩
              rcases mem_insertEntry membership with rfl | later
              · exact after
              · exact first found later
          · next notAfter =>
              have same : added.address = entry.address :=
                UInt16.le_antisymm (UInt16.not_lt.mp notAfter) (UInt16.not_lt.mp notBefore)
              exact List.pairwise_cons.mpr ⟨fun found later => same ▸ first found later, tail⟩

end Breakpoints

/-! ## The table -/

/-- Breakpoints in ascending order of their addresses. -/
structure Breakpoints where
  /-- The breakpoints from the lowest address on. -/
  entries : List Breakpoint
  /-- No address comes twice or out of order. -/
  ascending : entries.Pairwise (·.address < ·.address)
deriving DecidableEq

namespace Breakpoints

/-- The table without breakpoints. -/
def empty : Breakpoints :=
  ⟨[], List.Pairwise.nil⟩

/-- The table with one more breakpoint, which replaces one at the same address. -/
def insert (table : Breakpoints) (added : Breakpoint) : Breakpoints :=
  ⟨insertEntry added table.entries, pairwise_insertEntry table.ascending⟩

/-- The table without the breakpoint at an address. -/
def erase (table : Breakpoints) (address : UInt16) : Breakpoints :=
  ⟨table.entries.filter (·.address ≠ address), table.ascending.filter _⟩

/-- The breakpoint at an address, if there is one. -/
def get? (table : Breakpoints) (address : UInt16) : Option Breakpoint :=
  table.entries.find? (·.address = address)

end Breakpoints

end Chip8

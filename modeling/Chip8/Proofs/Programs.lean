import Chip8.Console.Keystream
import Chip8.Proofs.Histories
import Mathlib.Data.List.GetD

/-!
# Programs in memory

A program comes from a source that may break off.  It is loaded as a whole or refused, and
three kinds of refusal divide the sources that are refused among them.

* A source that broke off is unreadable, whatever it had yielded until then.
* A program with more bytes than there are behind the start address is oversized.  Behind a
  start address outside memory there are none.
* What is left is a program without bytes whose start address lies outside memory.

A program that is loaded replaces the bytes of its own span.  So a second one stands over
the first, and the rest of a longer first one remains behind it.
-/

namespace Chip8

/-! ## One write over another -/

/-- A second write to the same address leaves of the first what lies behind it. -/
theorem Memory.Stored.overlay {before between after : Memory} {address : Nat}
    {first second : List UInt8} (earlier : before.Stored address first between)
    (later : between.Stored address second after) :
    before.Stored address (second ++ first.drop second.length) after where
  within := by
    have within := later.within
    rw [earlier.size] at within
    have longest := earlier.within
    rw [List.length_append, List.length_drop]
    omega
  size := later.size.trans earlier.size
  bytes other bound := by
    have written := later.bytes other (earlier.size ▸ bound)
    rw [written, earlier.bytes other bound, List.length_append, List.length_drop]
    by_cases front : address ≤ other ∧ other < address + second.length
    · rw [if_pos front, if_pos (by omega), List.getD_append _ _ _ _ (by omega)]
    · rw [if_neg front]
      by_cases inside : address ≤ other ∧ other < address + first.length
      · have offset : second.length + (other - address - second.length) = other - address := by
          omega
        rw [if_pos inside, if_pos (by omega), List.getD_append_right _ _ _ _ (by omega)]
        simp only [List.getD_eq_getElem?_getD, List.getElem?_drop, offset]
      · rw [if_neg inside, if_neg (by omega)]

namespace Machine

variable {machine after : Machine} {bytes first second : List UInt8}

/-! ## Programs that are loaded -/

/-- The bytes are in memory from the start address on, and all else is as before. -/
structure Programmed (machine : Machine) (bytes : List UInt8) (after : Machine) : Prop where
  memory : machine.memory.Stored machine.config.start.toNat bytes after.memory
  rest : after = { machine with memory := after.memory }

theorem load_eq_ok_iff : machine.load machine.config.start.toNat bytes = .ok after ↔
    machine.Programmed bytes after := by
  rw [load]
  cases written : machine.memory.write machine.config.start.toNat bytes with
  | ok memory =>
      have stored := Memory.write_eq_ok_iff.mp written
      constructor
      · intro loaded
        obtain rfl := Except.ok.inj loaded
        exact ⟨stored, rfl⟩
      · intro programmed
        rw [programmed.rest, stored.unique programmed.memory]
        rfl
  | error fault =>
      constructor
      · intro impossible
        cases impossible
      · intro programmed
        cases written.symm.trans (Memory.write_eq_ok_iff.mpr programmed.memory)

theorem loadProgram_eq_ok_iff {count : Nat} :
    machine.loadProgram ⟨bytes, none⟩ = .ok (after, count) ↔
      machine.Programmed bytes after ∧ count = bytes.length := by
  constructor
  · intro loaded
    rcases Nat.lt_or_ge machine.programLimit bytes.length with large | small
    · rw [loadProgram_of_lt large] at loaded
      cases loaded
    · rw [loadProgram_of_le small] at loaded
      cases granted : machine.load machine.config.start.toNat bytes with
      | ok found =>
          rw [granted] at loaded
          cases loaded
          exact ⟨load_eq_ok_iff.mp granted, rfl⟩
      | error fault =>
          rw [granted] at loaded
          cases loaded
  · rintro ⟨programmed, rfl⟩
    have within := programmed.memory.within
    have small : bytes.length ≤ machine.programLimit := by
      rw [programLimit]
      omega
    rw [loadProgram_of_le small, load_eq_ok_iff.mpr programmed]
    rfl

/-- Every program that fits is loaded, and only those are. -/
theorem exists_loadProgram_iff :
    (∃ after, machine.loadProgram ⟨bytes, none⟩ = .ok (after, bytes.length)) ↔
      machine.config.start.toNat + bytes.length ≤ machine.memory.size := by
  constructor
  · rintro ⟨after, loaded⟩
    exact (loadProgram_eq_ok_iff.mp loaded).1.memory.within
  · intro within
    obtain ⟨memory, stored⟩ : ∃ memory, machine.memory.Stored _ bytes memory :=
      ⟨_, Memory.stored_overwrite within⟩
    have programmed : machine.Programmed bytes { machine with memory } := ⟨stored, rfl⟩
    exact ⟨_, loadProgram_eq_ok_iff.mpr ⟨programmed, rfl⟩⟩

/-! ## Programs that are refused -/

theorem loadProgram_eq_oversized_iff {size limit : Nat} :
    machine.loadProgram ⟨bytes, none⟩ = .error (.oversizedProgram size limit) ↔
      size = bytes.length ∧ limit = machine.memory.size - machine.config.start.toNat ∧
        limit < size := by
  rw [loadProgram_eq_error_iff]
  constructor
  · rintro (⟨large, same⟩ | ⟨_, _, impossible⟩)
    · cases same
      exact ⟨rfl, rfl, large⟩
    · cases impossible
  · rintro ⟨rfl, rfl, large⟩
    exact Or.inl ⟨large, rfl⟩

/-- A program that is refused for another reason has no bytes, and its start address lies
outside memory. -/
theorem loadProgram_refused_otherwise_iff {fault : Fault} :
    (machine.loadProgram ⟨bytes, none⟩ = .error fault ∧
        ∀ size limit, fault ≠ .oversizedProgram size limit) ↔
      bytes = [] ∧ machine.memory.size < machine.config.start.toNat ∧
        fault = .outsideMemory machine.config.start.toNat 0 machine.memory.size := by
  rw [loadProgram_eq_error_iff]
  constructor
  · rintro ⟨⟨_, same⟩ | ⟨empty, outside, same⟩, other⟩
    · exact absurd same (other _ _)
    · exact ⟨empty, Nat.lt_of_not_le outside, same⟩
  · rintro ⟨empty, beyond, rfl⟩
    exact ⟨Or.inr ⟨empty, Nat.not_le_of_lt beyond, rfl⟩, nofun⟩

/-! ## One program over another -/

theorem Programmed.overlay {between : Machine} (earlier : machine.Programmed first between)
    (later : between.Programmed second after) :
    machine.Programmed (second ++ first.drop second.length) after where
  memory := by
    have start : between.config = machine.config := by rw [earlier.rest]
    have stored := later.memory
    rw [start] at stored
    exact earlier.memory.overlay stored
  rest := by rw [later.rest, earlier.rest]

/-- Two programs that fit can be loaded one over the other. -/
theorem exists_loadProgram_twice
    (firstFits : machine.config.start.toNat + first.length ≤ machine.memory.size)
    (secondFits : machine.config.start.toNat + second.length ≤ machine.memory.size) :
    ∃ between last,
      machine.loadProgram ⟨first, none⟩ = .ok (between, first.length) ∧
      between.loadProgram ⟨second, none⟩ = .ok (last, second.length) ∧
      machine.Programmed (second ++ first.drop second.length) last := by
  obtain ⟨between, earlier⟩ := exists_loadProgram_iff.mpr firstFits
  have programmed := (loadProgram_eq_ok_iff.mp earlier).1
  have start : between.config = machine.config := by rw [programmed.rest]
  rw [← start, ← programmed.memory.size] at secondFits
  obtain ⟨last, later⟩ := exists_loadProgram_iff.mpr secondFits
  exact ⟨between, last, earlier, later,
    programmed.overlay (loadProgram_eq_ok_iff.mp later).1⟩

/-! ## Loading -/

/-- A source that broke off is unreadable.  Any other program is loaded exactly if it fits,
and then its bytes are in memory and all else is as before.  It is oversized exactly if it has
more bytes than there are behind the start address, none of them if that lies outside memory,
and what else is refused has no bytes at all.  A refusal changes nothing.  A second program
leaves of the first what lies behind its own bytes. -/
theorem program_loaded_whole_or_refused (machine : Machine) :
    (∀ bytes failure,
      machine.loadProgram ⟨bytes, some failure⟩ = .error (.unreadable failure)) ∧
    (∀ bytes after count, machine.loadProgram ⟨bytes, none⟩ = .ok (after, count) ↔
      machine.Programmed bytes after ∧ count = bytes.length) ∧
    (∀ bytes, (∃ after, machine.loadProgram ⟨bytes, none⟩ = .ok (after, bytes.length)) ↔
      machine.config.start.toNat + bytes.length ≤ machine.memory.size) ∧
    (∀ bytes size limit,
      machine.loadProgram ⟨bytes, none⟩ = .error (.oversizedProgram size limit) ↔
        size = bytes.length ∧ limit = machine.memory.size - machine.config.start.toNat ∧
          limit < size) ∧
    (∀ bytes fault,
      (machine.loadProgram ⟨bytes, none⟩ = .error fault ∧
          ∀ size limit, fault ≠ .oversizedProgram size limit) ↔
        bytes = [] ∧ machine.memory.size < machine.config.start.toNat ∧
          fault = .outsideMemory machine.config.start.toNat 0 machine.memory.size) ∧
    (∀ source after fault,
      machine.answer (.loadProgram source) = ⟨after, some fault⟩ → after = machine) ∧
    ∀ first second : List UInt8,
      machine.config.start.toNat + first.length ≤ machine.memory.size →
      machine.config.start.toNat + second.length ≤ machine.memory.size →
        ∃ between last,
          machine.loadProgram ⟨first, none⟩ = .ok (between, first.length) ∧
          between.loadProgram ⟨second, none⟩ = .ok (last, second.length) ∧
          machine.Programmed (second ++ first.drop second.length) last := by
  refine ⟨fun _ _ => rfl, fun _ _ _ => loadProgram_eq_ok_iff, fun _ => exists_loadProgram_iff,
    fun _ _ _ => loadProgram_eq_oversized_iff, fun _ _ => loadProgram_refused_otherwise_iff,
    ?_, fun _ _ => exists_loadProgram_twice⟩
  intro source after fault refused
  exact ((answer_eq_fault_iff rfl).mp refused).2

/-- Of four bytes that fill the memory behind the start address, two remain behind a shorter
program.  One byte more would not fit. -/
theorem shorter_program_over_full_memory :
    ∃ machine between last left : Machine,
      boot { width := 8, height := 1, memorySize := 0x60, start := 0x5C } 0 = .ok machine ∧
      machine.loadProgram ⟨[1, 2, 3, 4], none⟩ = .ok (between, 4) ∧
      between.loadProgram ⟨[9, 8], none⟩ = .ok (last, 2) ∧
      machine.Programmed [9, 8, 3, 4] last ∧ last.memory.read 0x5C 4 = .ok [9, 8, 3, 4] ∧
      machine.answer (.loadProgram ⟨[1, 2, 3, 4, 5], none⟩) =
        ⟨left, some (.oversizedProgram 5 4)⟩ ∧
      left = machine := by
  have boots : ((boot { width := 8, height := 1, memorySize := 0x60, start := 0x5C } 0).map
      fun _ => true).toOption = some true := by
    decide +kernel
  obtain ⟨machine, built, _⟩ := exists_ok_of_map boots
  have atRest := atRest_of_build built
  have start : machine.config.start.toNat = 0x5C := by
    rw [atRest.shape]
    rfl
  have size : machine.memory.size = 0x60 := atRest.size
  obtain ⟨_, _, _, oversized, _, unchanged, twice⟩ := program_loaded_whole_or_refused machine
  obtain ⟨between, last, earlier, later, programmed⟩ :=
    twice [1, 2, 3, 4] [9, 8] (by simp [start, size]) (by simp [start, size])
  have large : machine.loadProgram ⟨[1, 2, 3, 4, 5], none⟩ = .error (.oversizedProgram 5 4) :=
    (oversized _ 5 4).mpr ⟨rfl, by rw [start, size], by decide⟩
  have refused : machine.answer (.loadProgram ⟨[1, 2, 3, 4, 5], none⟩) =
      ⟨machine, some (.oversizedProgram 5 4)⟩ := by
    rw [answer, large]
    rfl
  exact ⟨machine, between, last, machine, built, earlier, later, programmed,
    start ▸ programmed.memory.read, refused, unchanged _ _ _ refused⟩

end Machine

end Chip8

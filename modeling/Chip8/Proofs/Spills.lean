import Chip8.Proofs.Changes
import Chip8.Proofs.Failures
import Chip8.Proofs.Moves

/-!
# Registers kept in memory

The memory of a machine is changed by two instructions and by three kinds of requests, and by
nothing else.  So a run changes memory as the list of its changes says
(`Machine.memory_moveAll`), and a span that none of them covers keeps its bytes.

A program keeps its first registers in memory by storing them and loads them back later.
Whatever it does meanwhile, the registers come back as they were if their span was spared and
the index register points at it again (`Machine.spilled_registers_reload`).
-/

namespace Chip8

/-! ## Changes of a run -/

/-- What a request asks to change in memory, where programs start at the given address. -/
def Request.change? (start : Nat) : Request → Option Memory.Change
  | .load address data => some (.write address data)
  | .loadFont address font => some (.writeFont address.toNat font)
  | .loadProgram ⟨bytes, none⟩ => some (.write start bytes)
  | _ => none

namespace Machine

variable {machine after start spilled later : Machine} {word : UInt16} {operation : Operation}
  {x y : Register}

/-- What the instruction at the program counter asks to change in memory. -/
def storing? (machine : Machine) : Option Memory.Change :=
  match machine.operation? with
  | some (.storeDecimal x) =>
      some (.write machine.index.toNat (decimalDigits (machine.register x)))
  | some (.storeRegisters x) =>
      some (.write machine.index.toNat (machine.registersThrough x))
  | _ => none

/-- What a move asks to change in memory. -/
def change? (machine : Machine) : Move → Option Memory.Change
  | .execute => machine.storing?
  | .answer request _ => request.change? machine.config.start.toNat
  | _ => none

/-- What a run asks to change in memory, in this order. -/
def changes (machine : Machine) : List Move → List Memory.Change
  | [] => []
  | move :: rest => (machine.change? move).toList ++ (machine.move move).changes rest

/-! ## Memory follows its changes -/

theorem memory_load (machine : Machine) (address : Nat) (data : List UInt8) :
    (Outcome.ofResult machine (machine.load address data)).machine.memory =
      machine.memory.after (.write address data) := by
  by_cases within : address + data.length ≤ machine.memory.size
  · rw [load_of_within within, Memory.after, Memory.attempt, Memory.write_eq_ok within]
    rfl
  · rw [load_of_not_within within, Memory.after, Memory.attempt, Memory.write_eq_error within]
    rfl

theorem memory_loadFont (machine : Machine) (address : UInt16) (font : Font) :
    (Outcome.ofResult machine (machine.loadFont address font)).machine.memory =
      machine.memory.after (.writeFont address.toNat font) := by
  rw [loadFont, Memory.after, Memory.attempt]
  cases machine.memory.writeFont address.toNat font <;> rfl

/-- A program that could be read is a write at the start address.  If it is too large the
write is refused too. -/
theorem memory_loadProgram (machine : Machine) (bytes : List UInt8) :
    (Outcome.ofResult machine
      ((machine.loadProgram ⟨bytes, none⟩).map Prod.fst)).machine.memory =
      machine.memory.after (.write machine.config.start.toNat bytes) := by
  by_cases large : machine.programLimit < bytes.length
  · have outside : ¬ machine.config.start.toNat + bytes.length ≤ machine.memory.size := by
      rw [programLimit] at large
      omega
    have refused : machine.memory.attempt (.write machine.config.start.toNat bytes) = .error _ :=
      Memory.write_eq_error outside
    rw [loadProgram_of_lt large, Memory.after_of_refused refused]
    rfl
  · rw [loadProgram_of_le (Nat.not_lt.mp large), ← memory_load]
    cases machine.load machine.config.start.toNat bytes <;> rfl

theorem Touched.memory {kind : Request.Kind} (touched : machine.Touched kind after)
    (staying : kind ≠ .storing) : after.memory = machine.memory := by
  cases touched with
  | stored memory font size => exact absurd rfl staying
  | _ => rfl

theorem memory_answer (machine : Machine) {request : Request} (direct : request.runs = false) :
    (machine.answer request).machine.memory =
      machine.memory.afterAll (request.change? machine.config.start.toNat).toList := by
  cases request with
  | load address data => exact machine.memory_load address data
  | loadFont address font => exact machine.memory_loadFont address font
  | loadProgram source =>
      obtain ⟨bytes, _ | failure⟩ := source
      · exact machine.memory_loadProgram bytes
      · rfl
  | _ => exact (touched_answer direct).memory (by nofun)

theorem memory_execute_of_load {address : Nat} {data : List UInt8}
    (asked : machine.operation? = some operation)
    (performed : machine.perform operation = (machine.load address data).map next) :
    machine.execute.machine.memory = machine.memory.after (.write address data) := by
  obtain ⟨word, held, number⟩ := operation?_eq_some_iff.mp asked
  rw [← memory_load, execute, step_eq_perform held number, performed]
  cases machine.load address data <;> rfl

theorem memory_of_row (row : Row machine word after)
    (spared : ∀ x, word.toNat ≠ (Operation.storeDecimal x).code ∧
      word.toNat ≠ (Operation.storeRegisters x).code) : after.memory = machine.memory := by
  cases row with
  | storeDecimal x memory number stored => exact absurd number (spared x).1
  | storeRegisters x memory number stored => exact absurd number (spared x).2
  | _ => rfl

theorem memory_execute (machine : Machine) :
    machine.execute.machine.memory = machine.memory.afterAll machine.storing?.toList := by
  rw [storing?]
  split
  · next x asked =>
      refine memory_execute_of_load asked ?_
      rw [perform]
      cases machine.load machine.index.toNat (decimalDigits (machine.register x)) <;> rfl
  · next x asked =>
      refine memory_execute_of_load asked ?_
      rw [perform]
      cases machine.load machine.index.toNat (machine.registersThrough x) <;> rfl
  · next other silent =>
      rw [execute]
      cases stepped : machine.step with
      | error fault => rfl
      | ok after =>
          obtain ⟨word, held, row⟩ := step_eq_ok_iff.mp stepped
          have kept := memory_of_row row fun x => ⟨fun number => ?_, fun number => ?_⟩
          · exact kept
          · exact other x (operation?_eq_some_iff.mpr ⟨word, held, number⟩)
          · exact silent x (operation?_eq_some_iff.mpr ⟨word, held, number⟩)

theorem memory_move (machine : Machine) (move : Move) :
    (machine.move move).memory = machine.memory.afterAll (machine.change? move).toList := by
  cases move with
  | advance dt => rfl
  | awaken =>
      rcases machine.move_awaken with same | ⟨registers, pc, woken⟩
      · rw [same]
        rfl
      · rw [woken]
        rfl
  | execute => exact machine.memory_execute
  | answer request direct => exact machine.memory_answer direct

/-- A run changes memory as its changes do, one after another. -/
theorem memory_moveAll (machine : Machine) (run : List Move) :
    (machine.moveAll run).memory = machine.memory.afterAll (machine.changes run) := by
  induction run generalizing machine with
  | nil => rfl
  | cons move rest induction =>
      rw [moveAll_cons, induction, memory_move, changes, Memory.afterAll_append]

/-! ## Spans that are spared -/

/-- No change of the run is granted and covers an address of the span. -/
def Spares (machine : Machine) (run : List Move) (span : Span) : Prop :=
  ∀ change ∈ machine.changes run, change.span.Within machine.memory.size →
    ∀ address, span.Contains address → change.byte? address = none

theorem Spares.byteAt {run : List Move} {span : Span} (spares : machine.Spares run span)
    {address : Nat} (inside : span.Contains address) :
    (machine.moveAll run).memory.byteAt address = machine.memory.byteAt address := by
  rw [memory_moveAll, Memory.byteAt_afterAll, Memory.Change.last?_eq_none, Option.getD_none]
  intro change among within
  exact spares change among within address inside

theorem size_moveAll (machine : Machine) (run : List Move) :
    (machine.moveAll run).memory.size = machine.memory.size := by
  rw [memory_moveAll, Memory.size_afterAll]

/-! ## Storing and loading registers -/

theorem execute_storeRegisters (held : machine.memory.HoldsWord machine.pc.toNat word)
    (number : word.toNat = 0xF055 + x * 0x100)
    (within : machine.index.toNat + (x + 1) ≤ machine.memory.size) :
    ∃ memory, machine.memory.Stored machine.index.toNat
        ((List.range (x + 1)).map fun i => machine.register (Fin.ofNat 16 i)) memory ∧
      machine.execute =
        ⟨{ machine with memory, pc := machine.pc + 2, unhandled := false }, none⟩ := by
  obtain ⟨memory, stored⟩ : ∃ memory, machine.memory.Stored machine.index.toNat
      ((List.range (x + 1)).map fun i => machine.register (Fin.ofNat 16 i)) memory :=
    ⟨_, Memory.stored_overwrite (by rwa [List.length_map, List.length_range])⟩
  exact ⟨memory, stored, (machine.execute_eq_iff_row _).mpr
    ⟨word, _, held, .storeRegisters x memory number stored, rfl⟩⟩

theorem execute_loadRegisters (held : machine.memory.HoldsWord machine.pc.toNat word)
    (number : word.toNat = 0xF065 + x * 0x100)
    (within : machine.index.toNat + (x + 1) ≤ machine.memory.size) :
    machine.execute =
      ⟨{ machine with
          registers := Vector.ofFn fun y =>
            if y ≤ x then machine.memory.byteAt (machine.index.toNat + y)
            else machine.register y
          pc := machine.pc + 2
          unhandled := false }, none⟩ :=
  (machine.execute_eq_iff_row _).mpr ⟨word, _, held, .loadRegisters x number within, rfl⟩

/-- Registers are stored and loaded wherever their span lies inside memory. -/
theorem fault_of_registers (held : machine.memory.HoldsWord machine.pc.toNat word)
    (number : word.toNat = 0xF055 + x * 0x100 ∨ word.toNat = 0xF065 + x * 0x100) :
    machine.execute.fault? = none ↔ machine.index.toNat + (x + 1) ≤ machine.memory.size := by
  by_cases within : machine.index.toNat + (x + 1) ≤ machine.memory.size
  · rcases number with storing | loading
    · obtain ⟨memory, _, executed⟩ := execute_storeRegisters held storing within
      simp only [executed, within]
    · simp only [execute_loadRegisters held loading within, within]
  · rw [execute_of_refused (.registers word x held number within)]
    simp only [reduceCtorEq, within]

/-- The registers up to a number stand in memory from an address on. -/
def Keeps (machine : Machine) (memory : Memory) (address : Nat) (x : Register) : Prop :=
  ∀ y ≤ x, memory.byteAt (address + y) = machine.register y

/-- Storing the registers puts them into memory. -/
theorem keeps_of_execute (held : start.memory.HoldsWord start.pc.toNat word)
    (number : word.toNat = 0xF055 + x * 0x100) (executed : start.execute = ⟨spilled, none⟩) :
    start.index.toNat + (x + 1) ≤ spilled.memory.size ∧
      start.Keeps spilled.memory start.index.toNat x := by
  have within : start.index.toNat + (x + 1) ≤ start.memory.size :=
    (fault_of_registers held (Or.inl number)).mp (by rw [executed])
  obtain ⟨memory, stored, same⟩ := execute_storeRegisters held number within
  obtain rfl : _ = spilled := congrArg Outcome.machine (same.symm.trans executed)
  refine ⟨stored.size.symm ▸ within, fun y low => ?_⟩
  have inside : (y : Nat) < x + 1 := Nat.lt_succ_of_le low
  have written := stored.bytes (start.index.toNat + y) (by omega)
  rw [List.length_map, List.length_range, if_pos (by omega), Nat.add_sub_cancel_left] at written
  rw [written]
  simp [inside]

/-- Registers that stand in memory stay there while their span is spared. -/
theorem Keeps.moveAll {run : List Move} {address : Nat}
    (keeps : machine.Keeps spilled.memory address x)
    (spares : spilled.Spares run ⟨address, x + 1⟩) :
    machine.Keeps (spilled.moveAll run).memory address x := by
  intro y low
  have inside : (Span.mk address (x + 1)).Contains (address + y) :=
    ⟨Nat.le_add_right _ _, Nat.add_lt_add_left (Nat.lt_succ_of_le low) _⟩
  rw [spares.byteAt inside]
  exact keeps y low

/-- Executing loads registers that another machine had, up to a number, and leaves the rest of
the registers, the index register and memory alone. -/
def Reloads (later start : Machine) (y : Register) : Prop :=
  ∃ reloaded, later.execute = ⟨reloaded, none⟩ ∧
    (∀ z ≤ y, reloaded.register z = start.register z) ∧
    (∀ z, y < z → reloaded.register z = later.register z) ∧
    reloaded.index = later.index ∧ reloaded.memory = later.memory

theorem Keeps.reloads (keeps : start.Keeps later.memory later.index.toNat x) (low : y ≤ x)
    (held : later.memory.HoldsWord later.pc.toNat word)
    (number : word.toNat = 0xF065 + y * 0x100)
    (within : later.index.toNat + (y + 1) ≤ later.memory.size) : later.Reloads start y := by
  refine ⟨_, execute_loadRegisters held number within, fun z lower => ?_, fun z higher => ?_,
    rfl, rfl⟩
  · rw [register, Registers.get_ofFn, if_pos lower]
    exact keeps z (Fin.le_trans lower low)
  · rw [register, Registers.get_ofFn, if_neg (Fin.not_le.mpr higher)]

/-! ## Registers that come back -/

/-- Registers that were stored come back when they are loaded from the same address, and none
but them are replaced, whatever the machine did meanwhile without writing into their span.
Storing and loading succeed wherever the span lies inside memory.  A history is such a run, and
whatever it executes stands at a point of the run. -/
theorem spilled_registers_reload :
    (∀ (start spilled : Machine) (word : UInt16) (x : Register),
      start.memory.HoldsWord start.pc.toNat word → word.toNat = 0xF055 + x * 0x100 →
      start.execute = ⟨spilled, none⟩ →
      ∀ run : List Move, spilled.Spares run ⟨start.index.toNat, x + 1⟩ →
      ∀ later, later = spilled.moveAll run → later.index = start.index →
      ∀ (word : UInt16) (y : Register), y ≤ x →
        later.memory.HoldsWord later.pc.toNat word → word.toNat = 0xF065 + y * 0x100 →
          later.Reloads start y) ∧
    (∀ (machine : Machine) (word : UInt16) (x : Register),
      machine.memory.HoldsWord machine.pc.toNat word →
      word.toNat = 0xF055 + x * 0x100 ∨ word.toNat = 0xF065 + x * 0x100 →
        (machine.execute.fault? = none ↔
          machine.index.toNat + (x + 1) ≤ machine.memory.size)) ∧
    (∀ (storing loading : Machine) (first second : UInt16) (x : Register),
      storing.memory.HoldsWord storing.pc.toNat first → first.toNat = 0xF055 + x * 0x100 →
      loading.memory.HoldsWord loading.pc.toNat second → second.toNat = 0xF065 + x * 0x100 →
      loading.index = storing.index → loading.memory.size = storing.memory.size →
        (storing.execute.fault? = none ↔ loading.execute.fault? = none)) ∧
    ∀ (machine : Machine) (requests : List Request),
      machine.afterAll requests = machine.moveAll (machine.movesAll requests) ∧
      ∀ start, Deed.executed start ∈ machine.deedsAll requests ↔
        ∃ earlier later, machine.movesAll requests = earlier ++ .execute :: later ∧
          start = machine.moveAll earlier := by
  refine ⟨?_, fun _ _ _ => fault_of_registers, ?_, fun machine requests =>
    ⟨(machine.retraced_afterAll requests).ends.symm, fun _ => executed_mem_deedsAll_iff⟩⟩
  · intro start spilled word x held number executed run spares later reached index word' y low
      held' number'
    obtain ⟨within, keeps⟩ := keeps_of_execute held number executed
    have size : later.memory.size = spilled.memory.size := by rw [reached, size_moveAll]
    have still : start.Keeps later.memory later.index.toNat x := by
      rw [index, reached]
      exact keeps.moveAll spares
    have lower : (y : Nat) ≤ x := low
    exact still.reloads low held' number' (by rw [index, size]; omega)
  · intro storing loading first second x held number held' number' index size
    rw [fault_of_registers held (Or.inl number), fault_of_registers held' (Or.inr number'),
      index, size]

/-- Of two registers that end with the memory one is loaded back, after the program was
written over at another place. -/
theorem register_comes_back :
    ∃ booted start spilled later : Machine, ∃ run : List Move,
      boot { width := 8, height := 1, memorySize := 0x60, start := 0x50 } 0 = .ok booted ∧
      start = booted.afterAll [.loadProgram ⟨[0x60, 0x11, 0x61, 0x22, 0xA0, 0x5E, 0xF1, 0x55,
        0x60, 0x00, 0x61, 0x00, 0xF0, 0x65], none⟩, .execute, .execute, .execute] ∧
      start.execute = ⟨spilled, none⟩ ∧
      run = [.execute, .answer (.load 0x56 [0xFF, 0xFF]) rfl, .awaken, .execute] ∧
      later = spilled.moveAll run ∧ later.register 0 = 0 ∧ start.register 0 = 0x11 ∧
      later.Reloads start 0 := by
  let program : List UInt8 := [0x60, 0x11, 0x61, 0x22, 0xA0, 0x5E, 0xF1, 0x55,
    0x60, 0x00, 0x61, 0x00, 0xF0, 0x65]
  let requests : List Request := [.loadProgram ⟨program, none⟩, .execute, .execute, .execute]
  let run : List Move := [.execute, .answer (.load 0x56 [0xFF, 0xFF]) rfl, .awaken, .execute]
  have made :
      ((boot { width := 8, height := 1, memorySize := 0x60, start := 0x50 } 0).map fun booted =>
        let start := booted.afterAll requests
        let spilled := start.execute.machine
        let later := spilled.moveAll run
        decide (start.operation? = some (.storeRegisters 1)) &&
          decide (start.execute.fault? = none) && decide (start.index = 0x5E) &&
          decide (spilled.changes run = [.write 0x56 [0xFF, 0xFF]]) &&
          decide (later.operation? = some (.loadRegisters 0)) &&
          decide (later.index = start.index) && decide (later.register 0 = 0) &&
          decide (start.register 0 = 0x11)).toOption = some true := by
    decide +kernel
  obtain ⟨booted, built, made⟩ := exists_ok_of_map made
  simp only [Bool.and_eq_true, decide_eq_true_eq] at made
  obtain ⟨⟨⟨⟨⟨⟨⟨storing, succeeds⟩, index⟩, changes⟩, loading⟩, again⟩, cleared⟩, first⟩ := made
  obtain ⟨word, held, number⟩ := operation?_eq_some_iff.mp storing
  obtain ⟨word', held', number'⟩ := operation?_eq_some_iff.mp loading
  have executed : (booted.afterAll requests).execute =
      ⟨(booted.afterAll requests).execute.machine, none⟩ := by
    rw [← succeeds]
  refine ⟨booted, _, _, _, run, built, rfl, executed, rfl, rfl, cleared, first,
    spilled_registers_reload.1 _ _ word 1 held number executed run ?_ _ rfl again word' 0
      (by decide) held' number'⟩
  intro change among _ address inside
  rw [changes] at among
  obtain rfl := List.mem_singleton.mp among
  -- the write ends at 0x58, and the registers begin at 0x5E
  refine Memory.Change.byte?_eq_none fun written => ?_
  have behind := inside.1
  rw [index] at behind
  exact absurd (Nat.lt_of_le_of_lt behind written.2) (by decide)

end Machine

end Chip8

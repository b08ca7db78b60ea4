import Chip8.Console.KeyHold
import Chip8.Machine.Run
import Chip8.Proofs.Registers

/-!
# Requests

A request is anything that can be asked of a machine from outside.  Its answer is
an outcome: the machine afterwards and the fault, if there was one.  Most requests
reach a component directly and are declined for a reason that can be read off the
machine beforehand.  Three requests run the program, and their faults are those of
the instructions that it executes.

A declined request goes on with the machine before.  `InPlace.answer` does not: it has
whatever was written up to the fault, and that turns out to be nothing.
-/

namespace Chip8

/-- What can be asked of a machine. -/
inductive Request where
  | load (address : Nat) (data : List UInt8)
  | loadFont (address : UInt16) (font : Font)
  | loadProgram (source : Machine.ProgramSource)
  | press (number : UInt8)
  | release (number : UInt8)
  | hold (hold : KeyHold)
  | callAt (target : UInt16)
  | returnToCall
  | setDelay (value : UInt8)
  | setSound (value : UInt8)
  | addBreakpoint (breakpoint : Breakpoint)
  | removeBreakpoint (address : UInt16)
  | execute
  | tick (dt : Float)
  | frame

/-- Whether a request executes instructions of the program. -/
def Request.runs : Request → Bool
  | .execute => true
  | .tick _ => true
  | .frame => true
  | _ => false

/-- The outcome of an operation that gives back a machine or a fault. -/
def Outcome.ofResult (before : Machine) : Except Fault Machine → Outcome
  | .ok after => ⟨after, none⟩
  | .error fault => ⟨before, some fault⟩

namespace Machine

/-- The answer to a request. -/
def answer (machine : Machine) : Request → Outcome
  | .load address data => .ofResult machine (machine.load address data)
  | .loadFont address font => .ofResult machine (machine.loadFont address font)
  | .loadProgram source => .ofResult machine ((machine.loadProgram source).map Prod.fst)
  | .press number => .ofResult machine (machine.press number)
  | .release number => .ofResult machine (machine.release number)
  | .hold hold => ⟨hold.holdOn machine, none⟩
  | .callAt target => ⟨machine.callAt target, none⟩
  | .returnToCall => .ofResult machine machine.returnToCall
  | .setDelay value => ⟨machine.setDelay value, none⟩
  | .setSound value => ⟨machine.setSound value, none⟩
  | .addBreakpoint breakpoint => ⟨machine.addBreakpoint breakpoint, none⟩
  | .removeBreakpoint address => ⟨machine.removeBreakpoint address, none⟩
  | .execute => machine.execute
  | .tick dt => machine.tick dt
  | .frame => machine.frame

/-! ## Declined requests -/

/-- Why a request that executes no instruction is declined. -/
inductive Declined (machine : Machine) : Request → Fault → Prop where
  | load (address : Nat) (data : List UInt8)
      (outside : ¬ address + data.length ≤ machine.memory.size) :
      Declined machine (.load address data)
        (.outsideMemory address data.length machine.memory.size)
  | loadFont (address : UInt16) (font : Font)
      (outside : ¬ address.toNat + font.length * font.stride ≤ machine.memory.size) :
      Declined machine (.loadFont address font)
        (.outsideMemory address.toNat (font.length * font.stride) machine.memory.size)
  | unreadable (bytes : List UInt8) (failure : ReadFailure) :
      Declined machine (.loadProgram ⟨bytes, some failure⟩) (.unreadable failure)
  | oversized (bytes : List UInt8)
      (large : machine.memory.size - machine.config.start.toNat < bytes.length) :
      Declined machine (.loadProgram ⟨bytes, none⟩)
        (.oversizedProgram bytes.length (machine.memory.size - machine.config.start.toNat))
  | misplaced (outside : ¬ machine.config.start.toNat ≤ machine.memory.size) :
      Declined machine (.loadProgram ⟨[], none⟩)
        (.outsideMemory machine.config.start.toNat 0 machine.memory.size)
  | press (number : UInt8) (high : ¬ number.toNat < 16) :
      Declined machine (.press number) (.noSuchKey number)
  | release (number : UInt8) (high : ¬ number.toNat < 16) :
      Declined machine (.release number) (.noSuchKey number)
  | returnToCall (uncalled : machine.calls = []) :
      Declined machine .returnToCall (.emptyStack machine.pc)

end Machine

theorem Outcome.ofResult_eq_fault_iff {before after : Machine} {result : Except Fault Machine}
    {fault : Fault} :
    ofResult before result = ⟨after, some fault⟩ ↔ result = .error fault ∧ after = before := by
  cases result with
  | ok given =>
      constructor
      · intro impossible
        cases impossible
      · intro impossible
        cases impossible.1
  | error given =>
      constructor
      · intro refused
        cases refused
        exact ⟨rfl, rfl⟩
      · rintro ⟨same, rfl⟩
        cases same
        rfl

theorem map_eq_error_iff {α β : Type} {result : Except Fault α} {f : α → β} {fault : Fault} :
    result.map f = .error fault ↔ result = .error fault := by
  cases result with
  | ok value =>
      constructor
      · intro impossible
        cases impossible
      · intro impossible
        cases impossible
  | error given =>
      show Except.error given = Except.error fault ↔ _
      rw [Except.error.injEq, Except.error.injEq]

/-- What is true of the value of a result shows that there is one. -/
theorem exists_ok_of_map {ε α : Type} {result : Except ε α} {holds : α → Bool}
    (found : (result.map holds).toOption = some true) :
    ∃ value, result = .ok value ∧ holds value = true := by
  cases result with
  | ok value => exact ⟨value, rfl, Option.some.inj found⟩
  | error given => cases found

/-- An operation that checks one condition is refused exactly if it does not hold. -/
theorem refused_iff_of_check {α : Type} {result : Except Fault α} {condition : Prop}
    {given fault : Fault} (granted : condition → ∃ value, result = .ok value)
    (declined : ¬ condition → result = .error given) :
    result = .error fault ↔ ¬ condition ∧ fault = given := by
  constructor
  · intro refused
    have outside : ¬ condition := fun holds => by
      obtain ⟨value, answered⟩ := granted holds
      rw [answered] at refused
      cases refused
    rw [declined outside] at refused
    exact ⟨outside, (Except.error.inj refused).symm⟩
  · rintro ⟨outside, rfl⟩
    exact declined outside

namespace Machine

variable {machine after : Machine} {fault : Fault}

theorem setKey_eq_error_iff {number : UInt8} {down : Bool} :
    machine.setKey number down = .error fault ↔
      ¬ number.toNat < 16 ∧ fault = .noSuchKey number := by
  apply refused_iff_of_check
  · intro valid
    rw [setKey, key, dif_pos valid]
    exact ⟨_, rfl⟩
  · intro high
    rw [setKey, key, dif_neg high]
    rfl

theorem load_eq_error_iff {address : Nat} {data : List UInt8} :
    machine.load address data = .error fault ↔
      ¬ address + data.length ≤ machine.memory.size ∧
        fault = .outsideMemory address data.length machine.memory.size :=
  refused_iff_of_check (fun within => ⟨_, load_of_within within⟩) load_of_not_within

theorem loadFont_eq_error_iff {address : UInt16} {font : Font} :
    machine.loadFont address font = .error fault ↔
      ¬ address.toNat + font.extent ≤ machine.memory.size ∧
        fault = .outsideMemory address.toNat font.extent machine.memory.size := by
  apply refused_iff_of_check
  · intro within
    rw [loadFont, Memory.writeFont, Span.check_of_within (by exact within)]
    exact ⟨_, rfl⟩
  · intro outside
    rw [loadFont, Memory.writeFont, Span.check_of_not_within (by exact outside)]
    rfl

/-- A font is loaded exactly if it fits, with its glyphs in memory and its place and
stride noted. -/
theorem loadFont_eq_ok_iff {address : UInt16} {font : Font} :
    machine.loadFont address font = .ok after ↔
      address.toNat + font.extent ≤ machine.memory.size ∧
        after =
          { machine with
            memory := ⟨font.place machine.memory.bytes address.toNat font.stride⟩
            font := ⟨address, font.stride⟩ } := by
  by_cases within : address.toNat + font.extent ≤ machine.memory.size
  · rw [loadFont, Memory.writeFont, Span.check_of_within (by exact within)]
    constructor
    · intro loaded
      exact ⟨within, (Except.ok.inj loaded).symm⟩
    · rintro ⟨_, rfl⟩
      rfl
  · rw [loadFont, Memory.writeFont, Span.check_of_not_within (by exact within)]
    constructor
    · intro impossible
      cases impossible
    · exact fun fits => absurd fits.1 within

theorem returnToCall_eq_error_iff :
    machine.returnToCall = .error fault ↔ machine.calls = [] ∧ fault = .emptyStack machine.pc := by
  cases called : machine.calls with
  | nil =>
      rw [returnToCall, called, Except.error.injEq, eq_comm, eq_self, true_and]
  | cons caller earlier =>
      rw [returnToCall, called]
      constructor
      · intro impossible
        cases impossible
      · intro impossible
        cases impossible.1

theorem loadProgram_of_lt {bytes : List UInt8} (large : machine.programLimit < bytes.length) :
    machine.loadProgram ⟨bytes, none⟩ =
      .error (.oversizedProgram bytes.length machine.programLimit) := by
  rw [loadProgram]
  exact if_pos large

/-- A program that is not too large is written at the start address and counted. -/
theorem loadProgram_of_le {bytes : List UInt8} (small : bytes.length ≤ machine.programLimit) :
    machine.loadProgram ⟨bytes, none⟩ =
      (machine.load machine.config.start.toNat bytes).map (·, bytes.length) := by
  rw [loadProgram]
  simp only [Nat.not_lt.mpr small, if_false]
  cases machine.load machine.config.start.toNat bytes <;> rfl

/-- A program that could be read is refused if it does not fit behind the start, or if
it has no bytes and the start lies outside memory. -/
theorem loadProgram_eq_error_iff {bytes : List UInt8} :
    machine.loadProgram ⟨bytes, none⟩ = .error fault ↔
      (machine.memory.size - machine.config.start.toNat < bytes.length ∧
        fault = .oversizedProgram bytes.length
          (machine.memory.size - machine.config.start.toNat)) ∨
      (bytes = [] ∧ ¬ machine.config.start.toNat ≤ machine.memory.size ∧
        fault = .outsideMemory machine.config.start.toNat 0 machine.memory.size) := by
  by_cases large : machine.memory.size - machine.config.start.toNat < bytes.length
  · have present : bytes ≠ [] := List.ne_nil_of_length_pos (Nat.zero_lt_of_lt large)
    rw [loadProgram_of_lt large, Except.error.injEq, eq_comm, programLimit]
    simp only [large, present, true_and, false_and, or_false]
  · rw [loadProgram_of_le (Nat.not_lt.mp large), map_eq_error_iff, load_eq_error_iff]
    constructor
    · rintro ⟨outside, rfl⟩
      -- the limit is cut off at zero, so only a program without bytes can get here
      have empty : bytes = [] := List.eq_nil_of_length_eq_zero (by omega)
      subst empty
      exact Or.inr ⟨rfl, outside, rfl⟩
    · rintro (⟨impossible, _⟩ | ⟨rfl, outside, rfl⟩)
      · exact absurd impossible large
      · exact ⟨outside, rfl⟩

/-- A request that executes no instruction fails for the listed reasons only, and
changes nothing then. -/
theorem answer_eq_fault_iff {request : Request} (direct : request.runs = false) :
    machine.answer request = ⟨after, some fault⟩ ↔
      Declined machine request fault ∧ after = machine := by
  cases request with
  | load address data =>
      rw [answer, Outcome.ofResult_eq_fault_iff, load_eq_error_iff, and_congr_left_iff]
      rintro rfl
      constructor
      · rintro ⟨outside, rfl⟩
        exact .load address data outside
      · rintro ⟨⟩
        next outside => exact ⟨outside, rfl⟩
  | loadFont address font =>
      rw [answer, Outcome.ofResult_eq_fault_iff, loadFont_eq_error_iff, and_congr_left_iff]
      rintro rfl
      constructor
      · rintro ⟨outside, rfl⟩
        exact .loadFont address font outside
      · rintro ⟨⟩
        next outside => exact ⟨outside, rfl⟩
  | loadProgram source =>
      rw [answer, Outcome.ofResult_eq_fault_iff, map_eq_error_iff, and_congr_left_iff]
      rintro rfl
      obtain ⟨bytes, _ | failure⟩ := source
      · rw [loadProgram_eq_error_iff]
        constructor
        · rintro (⟨large, rfl⟩ | ⟨rfl, outside, rfl⟩)
          · exact .oversized bytes large
          · exact .misplaced outside
        · intro declined
          cases declined with
          | oversized _ large => exact Or.inl ⟨large, rfl⟩
          | misplaced outside => exact Or.inr ⟨rfl, outside, rfl⟩
      · constructor
        · intro refused
          cases refused
          exact .unreadable bytes failure
        · rintro ⟨⟩
          rfl
  | press number =>
      rw [answer, Outcome.ofResult_eq_fault_iff, press, setKey_eq_error_iff, and_congr_left_iff]
      rintro rfl
      constructor
      · rintro ⟨high, rfl⟩
        exact .press number high
      · rintro ⟨⟩
        next high => exact ⟨high, rfl⟩
  | release number =>
      rw [answer, Outcome.ofResult_eq_fault_iff, release, setKey_eq_error_iff, and_congr_left_iff]
      rintro rfl
      constructor
      · rintro ⟨high, rfl⟩
        exact .release number high
      · rintro ⟨⟩
        next high => exact ⟨high, rfl⟩
  | returnToCall =>
      rw [answer, Outcome.ofResult_eq_fault_iff, returnToCall_eq_error_iff, and_congr_left_iff]
      rintro rfl
      constructor
      · rintro ⟨uncalled, rfl⟩
        exact .returnToCall uncalled
      · rintro ⟨⟩
        next uncalled => exact ⟨uncalled, rfl⟩
  | hold _ | callAt _ | setDelay _ | setSound _ | addBreakpoint _ | removeBreakpoint _ =>
      constructor
      · intro impossible
        cases impossible
      · intro impossible
        cases impossible.1
  | execute | tick _ | frame => cases direct

end Machine

end Chip8

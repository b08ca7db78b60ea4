import Chip8.Proofs.Dispatch
import Chip8.Proofs.Failures

/-!
# Failures in place

Executions, ticks, frames and requests are run in place here, each by the parts that it has:
the fetch and the handler, the key that ends a wait and the instructions behind it, the ticks
of a frame.  All of them lead where the answers to requests lead.  A fault that one of them
gives was found before anything else of the same instruction or request was written, so the
machine that is left is the one before, but for the mark of an unknown word.
-/

namespace Chip8

namespace InPlace

/-! ## Executions -/

section Mark

variable (machine : Machine) (unhandled : Bool)

theorem skipIf_mark (condition : Bool) :
    { machine with unhandled }.skipIf condition =
      { machine.skipIf condition with unhandled } := by
  cases condition with
  | false => rfl
  | true => rfl

theorem combine_mark (op : Arithmetic) (x y : Register) :
    { machine with unhandled }.combine op x y = { machine.combine op x y with unhandled } := by
  cases op with
  | _ => rfl

theorem skipIf_key_mark (number : UInt8) (test : Bool → Bool) :
    (do return { machine with unhandled }.skipIf (test (← machine.isDown number)) :
        Except Fault Machine) =
      (do return machine.skipIf (test (← machine.isDown number)) : Except Fault Machine).map
        ({ · with unhandled }) := by
  cases machine.isDown number with
  | ok down => exact congrArg Except.ok (skipIf_mark machine unhandled (test down))
  | error fault => rfl

theorem store_mark (address : Nat) (data : List UInt8) :
    (do return (← { machine with unhandled }.load address data).next : Except Fault Machine) =
      (do return (← machine.load address data).next : Except Fault Machine).map
        ({ · with unhandled }) := by
  rw [Machine.load, Machine.load]
  cases machine.memory.write address data with
  | ok memory => rfl
  | error fault => rfl

/-- No operation looks at the mark of an unknown word or changes it. -/
theorem perform_mark (operation : Operation) :
    { machine with unhandled }.perform operation =
      (machine.perform operation).map ({ · with unhandled }) := by
  cases operation with
  | skipIfByte x kk => exact congrArg Except.ok (skipIf_mark machine unhandled _)
  | skipUnlessByte x kk => exact congrArg Except.ok (skipIf_mark machine unhandled _)
  | skipIfEqual x y => exact congrArg Except.ok (skipIf_mark machine unhandled _)
  | skipUnlessEqual x y => exact congrArg Except.ok (skipIf_mark machine unhandled _)
  | combine op x y =>
      exact congrArg (fun combined => Except.ok combined.next)
        (combine_mark machine unhandled op x y)
  | endSubroutine =>
      simp only [Machine.perform, Machine.returnToCall]
      cases machine.calls with
      | nil => rfl
      | cons caller earlier => rfl
  | skipIfKey x => exact skipIf_key_mark machine unhandled (machine.register x) id
  | skipUnlessKey x => exact skipIf_key_mark machine unhandled (machine.register x) not
  | storeDecimal x => exact store_mark machine unhandled machine.index.toNat _
  | storeRegisters x => exact store_mark machine unhandled machine.index.toNat _
  | loadRegisters x =>
      simp only [Machine.perform]
      cases machine.memory.read machine.index.toNat (x + 1) with
      | ok data => rfl
      | error fault => rfl
  | draw x y n =>
      simp only [Machine.perform]
      show (machine.screen.drawFrom (machine.register x).toNat (machine.register y).toNat
        machine.memory.bytes machine.index.toNat n >>= _) = _
      cases machine.screen.drawFrom (machine.register x).toNat (machine.register y).toNat
          machine.memory.bytes machine.index.toNat n with
      | ok drawn => rfl
      | error fault => rfl
  | _ => rfl

end Mark

section Known

variable {machine : Machine} {operation : Operation} {word : UInt16} {fault : Fault}

theorem known_of_fetch (failed : machine.fetch = .error fault) : fault.isUnrecognized = false := by
  by_cases within : machine.pc.toNat + 2 ≤ machine.memory.size
  · rw [Machine.fetch, Memory.word_eq_ok within] at failed
    cases failed
  · rw [Machine.fetch, Memory.word_eq_error within] at failed
    cases failed
    rfl

/-- An operation that fails has another reason than an unknown word. -/
theorem known_of_perform (fetched : machine.fetch = .ok word)
    (asked : Operation.ofWord? word = some operation)
    (failed : machine.perform operation = .error fault) : fault.isUnrecognized = false := by
  have held := Memory.word_eq_ok_iff.mp fetched
  have number := Operation.code_eq_iff.mpr asked
  -- the list of refusals names an unknown word only where no operation has its number
  cases Machine.refused_of_perform held number failed with
  | unrecognized other also unknown =>
      rw [Memory.HoldsWord.unique held also] at number
      exact absurd number (unknown operation)
  | _ => rfl

end Known

/-- What an attempt gives back in place, and the machine that it leaves. -/
def ended : Outcome → Except Fault Unit × Machine
  | ⟨after, none⟩ => (.ok (), after)
  | ⟨after, some fault⟩ => (.error fault, after)

/-- Executing in place leads where an execution leads. -/
theorem execute_eq (machine : Machine) : execute.runOn machine = ended machine.execute := by
  rw [execute, runOn_update_bind, runOn_get_bind, Machine.execute, Machine.step]
  show ((demand machine.fetch >>= _) : InPlace Unit).runOn _ = _
  cases fetched : machine.fetch with
  | error fault =>
      show (_, _) = (_, { machine with unhandled := fault.isUnrecognized })
      rw [known_of_fetch fetched]
  | ok word =>
      rw [runOn_demand_ok_bind, dispatch_eq]
      simp only [bind, Except.bind]
      cases asked : Operation.ofWord? word with
      | none =>
          rw [Operation.ofWord?] at asked
          rw [asked]
          rfl
      | some operation =>
          rw [← Operation.ofWord?, asked]
          show settled _ ({ machine with unhandled := false }.perform operation) = _
          rw [perform_mark]
          dsimp only
          cases failed : machine.perform operation with
          | ok after => rfl
          | error fault =>
              show (_, _) = (_, { machine with unhandled := fault.isUnrecognized })
              rw [known_of_perform fetched asked failed]

/-! ## Ticks and frames -/

/-- Give the lowest key that is down to the waiting register, and tell whether instructions
may be executed. -/
def resolveKeyWait : InPlace Bool := do
  let machine ← get
  match machine.waiting, machine.lowestKey? with
  | none, _ => return true
  | some _, none => return false
  | some x, some key => do
      setRegister x (UInt8.ofNat key)
      update fun machine => { machine with waiting := none }
      update Machine.next
      return true

/-- Execute up to a number of instructions. -/
def burst : Nat → InPlace Unit
  | 0 => return ()
  | count + 1 => do
      match ← resolveKeyWait with
      | true => do
          execute
          burst count
      | false => return ()

/-- Let time pass for one timer and then the other, and execute the instructions of one
tick. -/
def tick (dt : Float) : InPlace Unit := do
  update fun machine => { machine with delay := machine.delay.advance dt }
  update fun machine => { machine with sound := machine.sound.advance dt }
  let machine ← get
  burst machine.config.instructionsPerTick

/-- Up to a number of ticks of equal length. -/
def ticks (dt : Float) : Nat → InPlace Unit
  | 0 => return ()
  | count + 1 => do
      tick dt
      ticks dt count

/-- The ticks of one frame. -/
def frame : InPlace Unit := do
  let machine ← get
  ticks machine.config.tickSeconds machine.config.ticksPerFrame

section Runs

variable (machine : Machine)

theorem resolveKeyWait_eq :
    resolveKeyWait.runOn machine =
      match machine.awaken? with
      | some awake => (.ok true, awake)
      | none => (.ok false, machine) := by
  rw [resolveKeyWait, runOn_get_bind, Machine.awaken?]
  cases machine.waiting with
  | none => rfl
  | some x =>
      cases machine.lowestKey? with
      | none => rfl
      | some key => rfl

theorem burst_eq (count : Nat) : (burst count).runOn machine = ended (machine.burst count) := by
  -- the machine changes with every instruction, so the rest of the burst is said of any machine
  induction count generalizing machine with
  | zero => rfl
  | succ count induction =>
      rw [burst, Machine.burst, runOn_bind, resolveKeyWait_eq]
      cases machine.awaken? with
      | none => rfl
      | some awake =>
          show (execute >>= fun _ => burst count).runOn awake = _
          rw [runOn_bind, execute_eq]
          rcases executed : awake.execute with ⟨after, _ | fault⟩
          · simp only [executed]
            exact induction after
          · simp only [executed]
            rfl

theorem tick_eq (dt : Float) : (tick dt).runOn machine = ended (machine.tick dt) := by
  rw [tick, runOn_update_bind, runOn_update_bind, runOn_get_bind, burst_eq]
  rfl

theorem ticks_eq (dt : Float) (count : Nat) :
    (ticks dt count).runOn machine = ended (machine.ticks dt count) := by
  induction count generalizing machine with
  | zero => rfl
  | succ count induction =>
      rw [ticks, Machine.ticks, runOn_bind, tick_eq]
      rcases machine.tick dt with ⟨after, _ | fault⟩
      · exact induction after
      · rfl

theorem frame_eq : frame.runOn machine = ended machine.frame := by
  rw [frame, runOn_get_bind, ticks_eq]
  rfl

end Runs

/-! ## Requests -/

/-- Do what a request asks for. -/
def answer : Request → InPlace Unit
  | .load address data => load address data
  | .loadFont address font => loadFont address font
  | .loadProgram source => do
      let _ ← loadProgram source
      return ()
  | .press number => setKey number true
  | .release number => setKey number false
  | .hold hold => settle hold (List.finRange 16)
  | .callAt target => callAt target
  | .returnToCall => returnToCall
  | .setDelay value => update fun machine => machine.setDelay value
  | .setSound value => update fun machine => machine.setSound value
  | .addBreakpoint breakpoint => update fun machine => machine.addBreakpoint breakpoint
  | .removeBreakpoint address => update fun machine => machine.removeBreakpoint address
  | .execute => execute
  | .tick dt => tick dt
  | .frame => frame

theorem ended_ofResult (machine : Machine) (result : Except Fault Machine) :
    ended (Outcome.ofResult machine result) = settled machine result := by
  cases result with
  | ok after => rfl
  | error fault => rfl

/-- A request in place leads where its answer leads. -/
theorem answer_eq (machine : Machine) (request : Request) :
    (answer request).runOn machine = ended (machine.answer request) := by
  cases request with
  | load address data => rw [answer, load_eq, Machine.answer, ended_ofResult]
  | loadFont address font => rw [answer, loadFont_eq, Machine.answer, ended_ofResult]
  | loadProgram source => rw [answer, loadProgram_eq, Machine.answer, ended_ofResult]
  | press number => rw [answer, setKey_eq, Machine.answer, ended_ofResult, Machine.press]
  | release number => rw [answer, setKey_eq, Machine.answer, ended_ofResult, Machine.release]
  | hold hold => exact settle_of_ok (hold.settle_finRange machine)
  | returnToCall => rw [answer, returnToCall_eq, Machine.answer, ended_ofResult]
  | execute => exact execute_eq machine
  | tick dt => exact tick_eq machine dt
  | frame => exact frame_eq machine
  | _ => rfl

/-! ## All failures -/

variable {machine after : Machine} {outcome : Outcome} {fault : Fault}

end InPlace

end Chip8

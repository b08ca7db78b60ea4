import Chip8.Proofs.Failures
import Chip8.Proofs.Histories

/-!
# Subroutines

A call puts its own address on the open calls, and a return takes the latest one off and
goes on behind it.  No other instruction touches the open calls, and neither does what a
user may do meanwhile.  So whatever runs inside a call works on top of the call's own
address: what lies below is as it was, and the step that uncovers it is the return of
this very call.
-/

namespace Chip8

/-- The request executes one instruction at most, and only that reaches the open calls. -/
def Request.Single (config : Config) : Request → Prop
  | .callAt _ => False
  | .returnToCall => False
  | .tick _ => config.instructionsPerTick = 1
  | .frame => False
  | _ => True

namespace Machine

variable {machine start after : Machine} {request : Request}

/-! ## One instruction -/

/-- What the instruction at the program counter does to the open calls. -/
inductive CallMove (machine after : Machine) : Prop where
  | kept (same : after.calls = machine.calls)
  | called (word : UInt16) (nnn : Fin 4096)
      (held : machine.memory.HoldsWord machine.pc.toNat word)
      (number : word.toNat = 0x2000 + nnn)
      (pushed : after.calls = machine.pc :: machine.calls)
  | returned (word caller : UInt16)
      (held : machine.memory.HoldsWord machine.pc.toNat word)
      (number : word.toNat = 0x00EE)
      (popped : machine.calls = caller :: after.calls)
      (behind : after.pc = caller + 2)

theorem callMove_execute (machine : Machine) : machine.CallMove machine.execute.machine := by
  rw [execute]
  cases stepped : machine.step with
  | error fault => exact .kept rfl
  | ok after =>
      obtain ⟨word, held, row⟩ := step_eq_ok_iff.mp stepped
      cases row with
      | call nnn number => exact .called word nnn held number rfl
      | endSubroutine caller earlier number called =>
          exact .returned word caller held number called rfl
      | _ => exact .kept rfl

/-- A call goes on at its target with its own address on the open calls. -/
theorem execute_of_call {word : UInt16} {nnn : Fin 4096}
    (held : machine.memory.HoldsWord machine.pc.toNat word) (number : word.toNat = 0x2000 + nnn) :
    machine.execute =
      ⟨{ machine with
          calls := machine.pc :: machine.calls, pc := UInt16.ofNat nnn, unhandled := false },
        none⟩ := by
  rw [execute, @step_eq_perform _ _ (.call nnn) held number]
  rfl

/-! ## One request -/

/-- The machine at which a request executes its instruction, if it comes to that. -/
def executing? (machine : Machine) : Request → Option Machine
  | .execute => some machine
  | .tick dt => (machine.advanceTimers dt).awaken?
  | _ => none

theorem calls_of_executing? (executing : machine.executing? request = some start) :
    start.calls = machine.calls := by
  cases request with
  | execute =>
      cases executing
      rfl
  | tick dt =>
      rcases @awoken_eq (machine.advanceTimers dt) _ executing with rfl | ⟨_, _, rfl⟩
      · rfl
      · rfl
  | _ => cases executing

theorem answer_of_executing? (single : request.Single machine.config)
    (executing : machine.executing? request = some start) :
    machine.answer request = start.execute := by
  cases request with
  | execute =>
      cases executing
      rfl
  | tick dt =>
      have one : machine.config.instructionsPerTick = 1 := single
      have awoken : (machine.advanceTimers dt).awaken? = some start := executing
      rw [answer, tick, one, burst, awoken]
      rcases ended : start.execute with ⟨next, _ | fault⟩
      · simp only [ended, burst]
      · simp only [ended]
  | _ => cases executing

/-- A request that comes to no instruction leaves the open calls alone. -/
theorem calls_answer_of_idle (single : request.Single machine.config)
    (idle : machine.executing? request = none) :
    (machine.answer request).machine.calls = machine.calls := by
  cases request with
  | execute => cases idle
  | frame => cases single
  | callAt target => cases single
  | returnToCall => cases single
  | tick dt =>
      have one : machine.config.instructionsPerTick = 1 := single
      have asleep : (machine.advanceTimers dt).awaken? = none := idle
      rw [answer, tick, one, burst, asleep]
      rfl
  | _ => exact (touched_answer rfl).calls (by simp [Request.kind])

/-! ## Inside a call -/

/-- The request executes a return that takes the latest call off, and goes on behind it. -/
structure Returns (machine : Machine) (request : Request) (site : UInt16) (outer : List UInt16) :
    Prop where
  executed : ∃ start word, machine.executing? request = some start ∧
    start.memory.HoldsWord start.pc.toNat word ∧ word.toNat = 0x00EE
  calls : (machine.answer request).machine.calls = outer
  pc : (machine.answer request).machine.pc = site + 2

/-- One request inside a call stays above its address, or is its return. -/
theorem inside_or_returns {site : UInt16} {inner outer : List UInt16}
    (single : request.Single machine.config) (inside : machine.calls = inner ++ site :: outer) :
    (∃ inner', (machine.answer request).machine.calls = inner' ++ site :: outer) ∨
      machine.Returns request site outer := by
  cases executing : machine.executing? request with
  | none => exact Or.inl ⟨inner, (calls_answer_of_idle single executing).trans inside⟩
  | some start =>
      have same := (calls_of_executing? executing).trans inside
      have answered := answer_of_executing? single executing
      rw [answered]
      cases start.callMove_execute with
      | kept kept => exact Or.inl ⟨inner, kept.trans same⟩
      | called word nnn held number pushed =>
          exact Or.inl ⟨start.pc :: inner, by rw [pushed, same, List.cons_append]⟩
      | returned word caller held number popped behind =>
          rw [same] at popped
          cases inner with
          | nil =>
              -- the call's own address is the latest one, so this is its return
              obtain ⟨rfl, rest⟩ := List.cons.inj popped
              exact Or.inr ⟨⟨start, word, executing, held, number⟩, by rw [answered, rest],
                by rw [answered, behind]⟩
          | cons latest inner => exact Or.inl ⟨inner, (List.cons.inj popped).2.symm⟩

/-- Requests that keep the depth above a call stay above the call's address. -/
theorem inside_afterAll {site : UInt16} {inner outer : List UInt16} {requests : List Request}
    (single : ∀ request ∈ requests, request.Single machine.config)
    (inside : machine.calls = inner ++ site :: outer)
    (above : ∀ made, made <+: requests → outer.length < (machine.afterAll made).calls.length) :
    ∃ inner', (machine.afterAll requests).calls = inner' ++ site :: outer := by
  induction requests generalizing machine inner with
  | nil => exact ⟨inner, inside⟩
  | cons request rest induction =>
      obtain ⟨now, later⟩ := List.forall_mem_cons.mp single
      rcases inside_or_returns now inside with ⟨inner', still⟩ | returns
      · refine induction ?_ still fun made before => ?_
        · rw [config_answer]
          exact later
        · exact above (request :: made) (List.cons_prefix_cons.mpr ⟨rfl, before⟩)
      · have uncovered := above [request] (List.cons_prefix_cons.mpr ⟨rfl, List.nil_prefix⟩)
        rw [afterAll_cons, afterAll_nil, returns.calls] at uncovered
        exact absurd uncovered (Nat.lt_irrefl _)

/-- A call is on top of the calls that were open before, and as long as the depth stays
above theirs, its address and theirs are as they were.  The first request that brings
the depth back executes a return, restores the open calls and goes on behind the call.
Asking for a call and a return gives back the machine. -/
theorem calls_nest :
    (∀ (machine start : Machine) (first : Request) (word : UInt16) (nnn : Fin 4096),
      first.Single machine.config → machine.executing? first = some start →
      start.memory.HoldsWord start.pc.toNat word → word.toNat = 0x2000 + nnn →
        let entered := (machine.answer first).machine
        entered.calls = start.pc :: machine.calls ∧
        entered.pc = UInt16.ofNat nnn ∧
        ∀ requests : List Request, (∀ request ∈ requests, request.Single machine.config) →
          (∀ made, made <+: requests →
            machine.calls.length < (entered.afterAll made).calls.length) →
            (∃ inner, (entered.afterAll requests).calls = inner ++ start.pc :: machine.calls) ∧
            ∀ last : Request, last.Single machine.config →
              ¬ machine.calls.length <
                (entered.afterAll (requests ++ [last])).calls.length →
                (entered.afterAll requests).Returns last start.pc machine.calls) ∧
    ∀ (machine : Machine) (target : UInt16),
      (machine.callAt target).returnToCall = .ok machine := by
  refine ⟨?_, fun _ _ => rfl⟩
  intro machine start first word nnn single executing held number entered
  have answered := answer_of_executing? single executing
  have pushed : entered.calls = start.pc :: machine.calls := by
    rw [← calls_of_executing? executing]
    simp only [entered, answered, execute_of_call held number]
  have arrived : entered.pc = UInt16.ofNat nnn := by
    simp only [entered, answered, execute_of_call held number]
  have config : entered.config = machine.config := config_answer machine first
  refine ⟨pushed, arrived, fun requests singles above => ?_⟩
  rw [← config] at singles
  obtain ⟨inner, inside⟩ := @inside_afterAll _ _ [] _ _ singles pushed above
  refine ⟨⟨inner, inside⟩, fun last lastSingle back => ?_⟩
  rw [← config, ← config_afterAll entered requests] at lastSingle
  rw [afterAll_append] at back
  refine (inside_or_returns lastSingle inside).resolve_left ?_
  rintro ⟨inner', still⟩
  apply back
  rw [afterAll_cons, afterAll_nil, still, List.length_append, List.length_cons]
  omega

/-- A subroutine that only returns, called while another call is open. -/
theorem called_subroutine_returns :
    ∃ machine entered : Machine,
      machine.calls = [0x200] ∧ machine.pc = 0x200 ∧
      machine.memory.HoldsWord machine.pc.toNat 0x2206 ∧
      entered = (machine.answer (.tick 0.5)).machine ∧
      entered.calls = machine.pc :: machine.calls ∧ entered.pc = 0x206 ∧
      (∃ inner, (entered.afterAll [.press 3]).calls = inner ++ machine.pc :: machine.calls) ∧
      (entered.afterAll [.press 3]).Returns .execute machine.pc machine.calls := by
  have made :
      ((boot Config.standard 0).map fun booted =>
        let machine := booted.afterAll
          [.loadProgram ⟨[0x22, 0x06, 0x00, 0x00, 0x00, 0x00, 0x00, 0xEE], none⟩, .callAt 0x200]
        let entered := (machine.answer (.tick 0.5)).machine
        decide (machine.config.instructionsPerTick = 1) && decide (machine.waiting = none) &&
          decide (machine.calls = [0x200]) && decide (machine.pc = 0x200) &&
          decide (machine.memory.word machine.pc.toNat = .ok 0x2206) &&
          decide (entered.calls.length = 2) &&
          decide ((entered.afterAll [.press 3]).calls.length = 2) &&
          decide ((entered.afterAll [.press 3, .execute]).calls.length = 1)).toOption =
        some true := by
    decide +kernel
  obtain ⟨booted, _, made⟩ := exists_ok_of_map made
  simp only [Bool.and_eq_true, decide_eq_true_eq] at made
  obtain ⟨⟨⟨⟨⟨⟨⟨one, awake⟩, calls⟩, pc⟩, fetched⟩, two⟩, still⟩, back⟩ := made
  let machine := booted.afterAll
    [.loadProgram ⟨[0x22, 0x06, 0x00, 0x00, 0x00, 0x00, 0x00, 0xEE], none⟩, .callAt 0x200]
  let entered := (machine.answer (.tick 0.5)).machine
  have held : machine.memory.HoldsWord machine.pc.toNat 0x2206 :=
    Memory.word_eq_ok_iff.mp fetched
  have executing : machine.executing? (.tick 0.5) = some (machine.advanceTimers 0.5) := by
    have rested : (machine.advanceTimers 0.5).waiting = none := awake
    rw [executing?, awaken?, rested]
  have above : ∀ made, made <+: [Request.press 3] →
      machine.calls.length < (entered.afterAll made).calls.length := by
    intro made before
    rw [calls]
    rcases List.prefix_cons_iff.mp before with rfl | ⟨rest, rfl, tail⟩
    · exact Nat.lt_of_lt_of_eq Nat.one_lt_two two.symm
    · obtain rfl := List.prefix_nil.mp tail
      exact Nat.lt_of_lt_of_eq Nat.one_lt_two still.symm
  obtain ⟨pushed, arrived, inside⟩ := calls_nest.1 machine _ (.tick 0.5) 0x2206 0x206
    one executing held rfl
  obtain ⟨kept, ended⟩ := inside [.press 3] (by simp [Request.Single]) above
  refine ⟨machine, entered, calls, pc, held, rfl, pushed, arrived, kept,
    ended .execute trivial ?_⟩
  rw [calls]
  exact Nat.not_lt.mpr (Nat.le_of_eq back)

end Machine

end Chip8

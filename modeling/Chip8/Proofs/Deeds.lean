import Chip8.Proofs.Histories

/-!
# Deeds

A request that executes instructions does so one after another, and a wait may end on
the way.  These are the deeds of the request.  Listing them makes it possible to speak
about the instructions that a run executes, and not only about the machine that it
leaves behind.

A property that survives every step holds wherever something is done: at the machine
whose wait ends and at every machine that executes an instruction
(`Lasting.by_of_mem_deedsAll`).
-/

namespace Chip8

/-- What is done to a machine while it answers a request. -/
inductive Deed where
  | woke (asleep awake : Machine)
  | executed (start : Machine)

namespace Machine

/-! ## The deeds of a request -/

/-- The end of a wait, if there was one. -/
def waking (machine awake : Machine) : List Deed :=
  match machine.waiting with
  | none => []
  | some _ => [.woke machine awake]

/-- The deeds of a burst. -/
def burstDeeds : Nat → Machine → List Deed
  | 0, _ => []
  | count + 1, machine =>
      match machine.awaken? with
      | none => []
      | some awake =>
          machine.waking awake ++ .executed awake ::
            match awake.execute with
            | ⟨after, none⟩ => burstDeeds count after
            | ⟨_, some _⟩ => []

/-- The deeds of a tick. -/
def tickDeeds (machine : Machine) (dt : Float) : List Deed :=
  burstDeeds machine.config.instructionsPerTick (machine.advanceTimers dt)

/-- The deeds of up to a number of ticks. -/
def ticksDeeds (dt : Float) : Nat → Machine → List Deed
  | 0, _ => []
  | count + 1, machine =>
      machine.tickDeeds dt ++
        match machine.tick dt with
        | ⟨after, none⟩ => ticksDeeds dt count after
        | ⟨_, some _⟩ => []

/-- The deeds of a request. -/
def deeds (machine : Machine) : Request → List Deed
  | .execute => [.executed machine]
  | .tick dt => machine.tickDeeds dt
  | .frame => ticksDeeds machine.config.tickSeconds machine.config.ticksPerFrame machine
  | _ => []

/-- The deeds of one request after another. -/
def deedsAll (machine : Machine) : List Request → List Deed
  | [] => []
  | request :: rest => machine.deeds request ++ (machine.answer request).machine.deedsAll rest

/-! ## The operation of a deed -/

/-- The operation that the word at the program counter asks for, if there is one. -/
def operation? (machine : Machine) : Option Operation :=
  machine.fetch.toOption.bind Operation.ofWord?

theorem operation?_eq_some_iff {machine : Machine} {operation : Operation} :
    machine.operation? = some operation ↔
      ∃ word, machine.memory.HoldsWord machine.pc.toNat word ∧ word.toNat = operation.code := by
  simp only [Operation.code_eq_iff, ← Memory.word_eq_ok_iff, operation?, fetch]
  cases machine.memory.word machine.pc.toNat with
  | error fault => simp [Except.toOption]
  | ok word => simp [Except.toOption]

end Machine

/-! ## What holds wherever something is done -/

/-- The property holds at the machine that does something.  A wait that ends is the
machine's own, and it ends as waits do. -/
def Deed.By (holds : Machine → Prop) : Deed → Prop
  | .woke asleep awake =>
      holds asleep ∧ asleep.waiting.isSome = true ∧ asleep.awaken? = some awake
  | .executed start => holds start

namespace Lasting

variable {holds : Machine → Prop} {machine awake : Machine} {deed : Deed}

theorem by_of_mem_waking (now : holds machine) (awoken : machine.awaken? = some awake)
    (done : deed ∈ machine.waking awake) : deed.By holds := by
  cases waiting : machine.waiting with
  | none =>
      rw [Machine.waking, waiting] at done
      cases done
  | some x =>
      rw [Machine.waking, waiting] at done
      obtain rfl := List.mem_singleton.mp done
      exact ⟨now, Option.isSome_iff_exists.mpr ⟨x, waiting⟩, awoken⟩

theorem by_of_mem_burstDeeds (lasting : Lasting holds) {count : Nat} (now : holds machine)
    (done : deed ∈ Machine.burstDeeds count machine) : deed.By holds := by
  induction count generalizing machine with
  | zero => cases done
  | succ count induction =>
      rw [Machine.burstDeeds] at done
      cases awoken : machine.awaken? with
      | none =>
          rw [awoken] at done
          cases done
      | some awake =>
          have started := lasting.awoken machine awake now awoken
          have later := lasting.executed awake started
          rw [awoken] at done
          rcases List.mem_append.mp done with waking | done
          · exact by_of_mem_waking now awoken waking
          · rcases List.mem_cons.mp done with rfl | done
            · exact started
            · rcases ended : awake.execute with ⟨next, _ | fault⟩
              · rw [ended] at done later
                exact induction later done
              · rw [ended] at done
                cases done

theorem by_of_mem_ticksDeeds (lasting : Lasting holds) {dt : Float} {count : Nat}
    (now : holds machine) (done : deed ∈ Machine.ticksDeeds dt count machine) : deed.By holds := by
  induction count generalizing machine with
  | zero => cases done
  | succ count induction =>
      rw [Machine.ticksDeeds] at done
      rcases List.mem_append.mp done with done | done
      · exact lasting.by_of_mem_burstDeeds (lasting.advanced machine dt now) done
      · have later := lasting.tick dt now
        rcases ended : machine.tick dt with ⟨next, _ | fault⟩
        · rw [ended] at done later
          exact induction later done
        · rw [ended] at done
          cases done

theorem by_of_mem_deeds (lasting : Lasting holds) {request : Request} (now : holds machine)
    (done : deed ∈ machine.deeds request) : deed.By holds := by
  cases request with
  | execute =>
      obtain rfl := List.mem_singleton.mp done
      exact now
  | tick dt => exact lasting.by_of_mem_burstDeeds (lasting.advanced machine dt now) done
  | frame => exact lasting.by_of_mem_ticksDeeds now done
  | _ => cases done

/-- A property that survives every step and every direct request of a history holds
wherever the history does something, and at its end. -/
theorem by_of_mem_deedsAll (lasting : Lasting holds) {requests : List Request}
    (direct : ∀ request ∈ requests, request.runs = false →
      ∀ machine, holds machine → holds (machine.answer request).machine)
    (now : holds machine) :
    holds (machine.afterAll requests) ∧ ∀ deed ∈ machine.deedsAll requests, deed.By holds := by
  induction requests generalizing machine with
  | nil => exact ⟨now, fun deed impossible => by cases impossible⟩
  | cons request rest induction =>
      obtain ⟨first, others⟩ := List.forall_mem_cons.mp direct
      have later : holds (machine.answer request).machine := by
        cases running : request.runs with
        | true => exact lasting.answer running now
        | false => exact first running machine now
      obtain ⟨last, below⟩ := induction others later
      refine ⟨last, fun deed done => ?_⟩
      rcases List.mem_append.mp done with done | done
      · exact lasting.by_of_mem_deeds now done
      · exact below deed done

end Lasting

end Chip8

import Chip8.Proofs.Deeds

/-!
# Moves

A request may execute many instructions, and much can happen between two of them.  Moves are
the smallest parts of a history: time passes, a wait ends, an instruction is executed, or a
request that executes none is answered.  A run is a list of moves, in any order.

Every request is answered by a run, and so is a history.  Whatever executes an instruction in a
history does so at a point of its run (`Machine.executed_mem_deedsAll_iff`).  Therefore what is
shown for all runs holds between any two instructions of a history, also within one tick.
-/

namespace Chip8

/-- The smallest part of a history. -/
inductive Move where
  | advance (dt : Float)
  | awaken
  | execute
  | answer (request : Request) (direct : request.runs = false)

/-- The machine that executes an instruction, if the deed is one. -/
def Deed.start? : Deed → Option Machine
  | .woke .. => none
  | .executed start => some start

namespace Machine

variable {machine between after start : Machine}

/-! ## Runs -/

/-- The machine after a move.  A wait that cannot end stays. -/
def move (machine : Machine) : Move → Machine
  | .advance dt => machine.advanceTimers dt
  | .awaken => machine.awaken?.getD machine
  | .execute => machine.execute.machine
  | .answer request _ => (machine.answer request).machine

/-- The machine after a run. -/
def moveAll (machine : Machine) (run : List Move) : Machine :=
  run.foldl move machine

/-- The machine, if it executes an instruction in a move. -/
def execution (machine : Machine) : Move → List Machine
  | .execute => [machine]
  | _ => []

/-- The machines that execute an instruction in a run, one after another. -/
def executions (machine : Machine) : List Move → List Machine
  | [] => []
  | move :: rest => machine.execution move ++ (machine.move move).executions rest

/-- A wait that ends changes registers and the program counter only. -/
theorem move_awaken (machine : Machine) : machine.move .awaken = machine ∨
    ∃ registers pc, machine.move .awaken = { machine with registers, pc, waiting := none } := by
  rw [move]
  cases awoken : machine.awaken? with
  | none => exact Or.inl rfl
  | some awake => exact awoken_eq awoken

@[simp]
theorem moveAll_cons (machine : Machine) (move : Move) (rest : List Move) :
    machine.moveAll (move :: rest) = (machine.move move).moveAll rest := rfl

theorem moveAll_append (machine : Machine) (first second : List Move) :
    machine.moveAll (first ++ second) = (machine.moveAll first).moveAll second :=
  List.foldl_append

theorem executions_append (machine : Machine) (first second : List Move) :
    machine.executions (first ++ second) =
      machine.executions first ++ (machine.moveAll first).executions second := by
  induction first generalizing machine with
  | nil => rfl
  | cons move rest induction =>
      rw [List.cons_append, executions, induction, executions, List.append_assoc, moveAll_cons]

/-- A machine that executes an instruction in a run is where the moves before have led. -/
theorem mem_executions_iff {run : List Move} : start ∈ machine.executions run ↔
    ∃ earlier later, run = earlier ++ .execute :: later ∧ start = machine.moveAll earlier := by
  constructor
  · intro among
    induction run generalizing machine with
    | nil => cases among
    | cons move rest induction =>
        rcases List.mem_append.mp among with now | among
        · cases move with
          | execute =>
              obtain rfl := List.mem_singleton.mp now
              exact ⟨[], rest, rfl, rfl⟩
          | _ => cases now
        · obtain ⟨earlier, later, rfl, rfl⟩ := induction among
          exact ⟨move :: earlier, later, rfl, rfl⟩
  · rintro ⟨earlier, later, rfl, rfl⟩
    rw [executions_append]
    exact List.mem_append_right _ List.mem_cons_self

/-! ## The run of a request -/

/-- The run of a burst. -/
def burstMoves : Nat → Machine → List Move
  | 0, _ => []
  | count + 1, machine =>
      match machine.awaken? with
      | none => []
      | some awake =>
          .awaken :: .execute ::
            match awake.execute with
            | ⟨after, none⟩ => burstMoves count after
            | ⟨_, some _⟩ => []

/-- The run of a tick. -/
def tickMoves (machine : Machine) (dt : Float) : List Move :=
  .advance dt :: burstMoves machine.config.instructionsPerTick (machine.advanceTimers dt)

/-- The run of up to a number of ticks. -/
def ticksMoves (dt : Float) : Nat → Machine → List Move
  | 0, _ => []
  | count + 1, machine =>
      machine.tickMoves dt ++
        match machine.tick dt with
        | ⟨after, none⟩ => ticksMoves dt count after
        | ⟨_, some _⟩ => []

/-- The run of a request. -/
def moves (machine : Machine) (request : Request) : List Move :=
  if direct : request.runs = false then [.answer request direct]
  else
    match request with
    | .execute => [.execute]
    | .tick dt => machine.tickMoves dt
    | .frame => ticksMoves machine.config.tickSeconds machine.config.ticksPerFrame machine
    | _ => []

/-- The run of one request after another. -/
def movesAll (machine : Machine) : List Request → List Move
  | [] => []
  | request :: rest => machine.moves request ++ (machine.answer request).machine.movesAll rest

/-! ## Runs lead where requests do -/

/-- The run leads to a machine, and it executes what is listed. -/
structure Retraced (machine : Machine) (run : List Move) (deeds : List Deed) (after : Machine) :
    Prop where
  ends : machine.moveAll run = after
  starts : machine.executions run = deeds.filterMap Deed.start?

theorem Retraced.append {first second : List Move} {earlier later : List Deed}
    (before : machine.Retraced first earlier between)
    (rest : between.Retraced second later after) :
    machine.Retraced (first ++ second) (earlier ++ later) after where
  ends := by rw [moveAll_append, before.ends, rest.ends]
  starts := by
    rw [executions_append, before.ends, before.starts, rest.starts, List.filterMap_append]

theorem retraced_nil (machine : Machine) : machine.Retraced [] [] machine :=
  ⟨rfl, rfl⟩

theorem retraced_awaken {awake : Machine} (awoken : machine.awaken? = some awake) :
    machine.Retraced [.awaken] (machine.waking awake) awake where
  ends := by
    show machine.awaken?.getD machine = awake
    rw [awoken, Option.getD_some]
  starts := by
    rw [waking]
    split <;> rfl

theorem retraced_execute (machine : Machine) :
    machine.Retraced [.execute] [.executed machine] machine.execute.machine :=
  ⟨rfl, rfl⟩

theorem retraced_burst (count : Nat) (machine : Machine) :
    machine.Retraced (burstMoves count machine) (burstDeeds count machine)
      (burst count machine).machine := by
  induction count generalizing machine with
  | zero => exact machine.retraced_nil
  | succ count induction =>
      rw [burstMoves, burstDeeds, burst]
      cases awoken : machine.awaken? with
      | none => exact machine.retraced_nil
      | some awake =>
          have executed := awake.retraced_execute
          refine (retraced_awaken awoken).append ?_
          rcases ended : awake.execute with ⟨next, _ | fault⟩
          · rw [ended] at executed
            simp only [ended]
            exact executed.append (induction next)
          · rw [ended] at executed
            simp only [ended]
            exact executed

theorem retraced_tick (machine : Machine) (dt : Float) :
    machine.Retraced (machine.tickMoves dt) (machine.tickDeeds dt) (machine.tick dt).machine :=
  have advanced : machine.Retraced [.advance dt] [] (machine.advanceTimers dt) := ⟨rfl, rfl⟩
  advanced.append (retraced_burst _ _)

theorem retraced_ticks (dt : Float) (count : Nat) (machine : Machine) :
    machine.Retraced (ticksMoves dt count machine) (ticksDeeds dt count machine)
      (ticks dt count machine).machine := by
  induction count generalizing machine with
  | zero => exact machine.retraced_nil
  | succ count induction =>
      have ticked := machine.retraced_tick dt
      rw [ticksMoves, ticksDeeds, ticks]
      rcases ended : machine.tick dt with ⟨next, _ | fault⟩
      · rw [ended] at ticked
        exact ticked.append (induction next)
      · rw [ended] at ticked
        exact ticked.append next.retraced_nil

theorem retraced_answer (machine : Machine) (request : Request) :
    machine.Retraced (machine.moves request) (machine.deeds request)
      (machine.answer request).machine := by
  rw [moves]
  cases request with
  | execute => exact machine.retraced_execute
  | tick dt => exact machine.retraced_tick dt
  | frame => exact retraced_ticks _ _ machine
  | _ => exact ⟨rfl, rfl⟩

/-- A history is a run that leads to the same machine and executes the same. -/
theorem retraced_afterAll (machine : Machine) (requests : List Request) :
    machine.Retraced (machine.movesAll requests) (machine.deedsAll requests)
      (machine.afterAll requests) := by
  induction requests generalizing machine with
  | nil => exact machine.retraced_nil
  | cons request rest induction => exact (machine.retraced_answer request).append (induction _)

/-- What executes an instruction in a history does so at a point of its run. -/
theorem executed_mem_deedsAll_iff {requests : List Request} :
    Deed.executed start ∈ machine.deedsAll requests ↔
      ∃ earlier later, machine.movesAll requests = earlier ++ .execute :: later ∧
        start = machine.moveAll earlier := by
  rw [← mem_executions_iff, (machine.retraced_afterAll requests).starts, List.mem_filterMap]
  constructor
  · intro done
    exact ⟨_, done, rfl⟩
  · rintro ⟨deed, done, started⟩
    cases deed with
    | woke asleep awake => cases started
    | executed other => exact Option.some.inj started ▸ done

end Machine

end Chip8

import Chip8.Console.Session
import Chip8.Proofs.Fixtures

/-!
# The log of a session

A log says what a session did in which order: every tick with the machine that it
started at, and every pause control that made a paused session go on.  The ticks of
a frame are recorded by a second reading of the frame's loop that runs the same
ticks, so its result is the result of the loop.

A tick is due to stop at a breakpoint once an earlier tick has run, unless a pause
control has made the session go on since.  A tick of a frame that starts at a
breakpoint all the same has run over it.
-/

namespace Chip8

/-- What a session does. -/
inductive Event where
  | resumed
  | stepped (start : Machine)
  | ran (start : Machine)

/-! ## The ticks of a frame -/

namespace Stretch

/-- The machines at which the ticks of a stretch start, and how the stretch ends. -/
def furtherLogged (dt : Float) : Nat → Machine → List Machine × Stretch
  | 0, machine => ([], .finished machine)
  | count + 1, machine =>
      if machine.breakpointHere?.isSome then ([], .stopped machine)
      else
        match machine.tick dt with
        | ⟨after, none⟩ =>
            let (starts, stretch) := furtherLogged dt count after
            (machine :: starts, stretch)
        | ⟨after, some fault⟩ => ([machine], .failed after fault)

/-- The machines at which the ticks of a frame start, and how the frame ends. -/
def ofTicksLogged (dt : Float) (count : Nat) (machine : Machine) : List Machine × Stretch :=
  match count with
  | 0 => ([], .finished machine)
  | count + 1 =>
      match machine.tick dt with
      | ⟨after, none⟩ =>
          let (starts, stretch) := furtherLogged dt count after
          (machine :: starts, stretch)
      | ⟨after, some fault⟩ => ([machine], .failed after fault)

theorem furtherLogged_snd (dt : Float) (count : Nat) (machine : Machine) :
    (furtherLogged dt count machine).2 = further dt count machine := by
  induction count generalizing machine with
  | zero => rfl
  | succ count induction =>
      rw [furtherLogged, further]
      split
      · rfl
      · rcases machine.tick dt with ⟨after, _ | fault⟩
        · exact induction after
        · rfl

/-- Recording the ticks of a frame does not change what the frame does. -/
theorem ofTicksLogged_snd (dt : Float) (count : Nat) (machine : Machine) :
    (ofTicksLogged dt count machine).2 = ofTicks dt count machine := by
  cases count with
  | zero => rfl
  | succ count =>
      rw [ofTicksLogged, ofTicks]
      rcases machine.tick dt with ⟨after, _ | fault⟩
      · exact furtherLogged_snd dt count after
      · rfl

end Stretch

/-! ## The log -/

namespace Session

/-- The ticks of a frame, and what the frame leads to. -/
def frameLogged (session : Session) : List Event × Turn :=
  let config := session.machine.config
  match Stretch.ofTicksLogged config.tickSeconds config.ticksPerFrame session.machine with
  | (starts, .finished machine) => (starts.map .ran, .shown { session with machine })
  | (starts, .stopped machine) => (starts.map .ran, .shown { session with machine, paused := true })
  | (starts, .failed machine fault) => (starts.map .ran, .failed { session with machine } fault)

/-- The pause controls of a batch that make a paused session go on. -/
def resumptions (paused : Bool) : Batch → List Event
  | [] => []
  | .pause :: rest => (if paused then [.resumed] else []) ++ resumptions (!paused) rest
  | _ :: rest => resumptions paused rest

/-- What the session does with one batch, and what that leads to. -/
def turnLogged (session : Session) (batch : Batch) : List Event × Turn :=
  let ready := session.receive batch
  let resumed := resumptions session.paused batch
  if .quit ∈ batch then (resumed, .left ready)
  else if .step ∈ batch then (resumed ++ [.stepped ready.machine], ready.stepOnce)
  else if ready.paused then (resumed, .shown ready)
  else
    let (events, turn) := ready.frameLogged
    (resumed ++ events, turn)

/-- What the session does with one batch after another, and how it ends. -/
def runLogged (session : Session) : List Batch → List Event × Run
  | [] => ([], ⟨session, [], .starved⟩)
  | batch :: rest =>
      match session.turnLogged batch with
      | (events, .left after) => (events, ⟨after, [], .quit⟩)
      | (events, .failed after fault) => (events, ⟨after, [], .failed fault⟩)
      | (events, .shown after) =>
          let (later, run) := after.runLogged rest
          (events ++ later, { run with pictures := after.picture :: run.pictures })

theorem frameLogged_snd (session : Session) : session.frameLogged.2 = session.runFrame := by
  simp only [frameLogged, runFrame, ← Stretch.ofTicksLogged_snd]
  split
  · next ended => rw [ended]
  · next ended => rw [ended]
  · next ended => rw [ended]

theorem turnLogged_snd (session : Session) (batch : Batch) :
    (session.turnLogged batch).2 = session.turn batch := by
  simp only [turnLogged, turn, ← frameLogged_snd]
  split
  · rfl
  · split
    · rfl
    · split <;> rfl

/-- Keeping a log does not change what a session does. -/
theorem runLogged_snd (session : Session) (batches : List Batch) :
    (session.runLogged batches).2 = session.run batches := by
  induction batches generalizing session with
  | nil => rfl
  | cons batch rest induction =>
      rw [runLogged, run, ← turnLogged_snd]
      split
      · next ended => rw [ended]
      · next ended => rw [ended]
      · next ended =>
          rw [ended]
          simp only [induction]

end Session

/-! ## Running over breakpoints -/

namespace Event

/-- Whether a tick is due to stop at a breakpoint after the events, given whether it
was before. -/
def due : Bool → List Event → Bool
  | ticked, [] => ticked
  | _, .resumed :: rest => due false rest
  | _, .stepped _ :: rest => due true rest
  | _, .ran _ :: rest => due true rest

/-- Whether a tick of a frame starts at a breakpoint where it is due to stop. -/
def overruns : Bool → List Event → Bool
  | _, [] => false
  | _, .resumed :: rest => overruns false rest
  | _, .stepped _ :: rest => overruns true rest
  | ticked, .ran start :: rest =>
      (ticked && start.breakpointHere?.isSome) || overruns true rest

end Event

end Chip8

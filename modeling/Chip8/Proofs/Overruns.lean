import Chip8.Console.Launch
import Chip8.Proofs.TickLog

/-!
# Running over breakpoints

Inside a frame every tick but the first is guarded, so it starts at a breakpoint
only where no check was made: at the beginning of the frame.  Nothing checks
whether the frame before it ended there.  A session therefore runs over a
breakpoint exactly where a frame came to its end at one and the next frame follows
without a pause control.
-/

namespace Chip8

namespace Event

/-! ## Logs in two parts -/

theorem overruns_append (ticked : Bool) (first second : List Event) :
    overruns ticked (first ++ second) =
      (overruns ticked first || overruns (due ticked first) second) := by
  induction first generalizing ticked with
  | nil => rfl
  | cons event rest induction =>
      cases event with
      | resumed => exact induction false
      | stepped start => exact induction true
      | ran start =>
          simp only [List.cons_append, overruns, due, induction, Bool.or_assoc]

theorem due_append (ticked : Bool) (first second : List Event) :
    due ticked (first ++ second) = due (due ticked first) second := by
  induction first generalizing ticked with
  | nil => rfl
  | cons event rest induction =>
      cases event with
      | resumed => exact induction false
      | stepped start => exact induction true
      | ran start => exact induction true

/-- Ticks that start at no breakpoint run over none. -/
theorem overruns_ran {starts : List Machine} (ticked : Bool)
    (clear : ∀ start ∈ starts, start.breakpointHere?.isSome = false) :
    overruns ticked (starts.map .ran) = false := by
  induction starts generalizing ticked with
  | nil => rfl
  | cons start rest induction =>
      obtain ⟨first, later⟩ := List.forall_mem_cons.mp clear
      rw [List.map_cons, overruns, first, Bool.and_false, Bool.false_or, induction true later]

theorem due_ran (starts : List Machine) : due true (starts.map .ran) = true := by
  induction starts with
  | nil => rfl
  | cons start rest induction => exact induction

end Event

/-! ## Frames -/

namespace Stretch

/-- Every later tick of a frame starts at no breakpoint. -/
theorem clear_of_mem_furtherLogged {dt : Float} {count : Nat} {machine start : Machine}
    (recorded : start ∈ (furtherLogged dt count machine).1) :
    start.breakpointHere?.isSome = false := by
  induction count generalizing machine with
  | zero => cases recorded
  | succ count induction =>
      rw [furtherLogged] at recorded
      split at recorded
      · cases recorded
      · next clear =>
          rcases ended : machine.tick dt with ⟨after, _ | fault⟩
          · simp only [ended] at recorded
            rcases List.mem_cons.mp recorded with rfl | later
            · exact Bool.eq_false_iff.mpr clear
            · exact induction later
          · simp only [ended] at recorded
            rw [List.mem_singleton.mp recorded]
            exact Bool.eq_false_iff.mpr clear

/-- The first tick of a frame starts at its machine, and the others at no breakpoint. -/
theorem ofTicksLogged_fst (dt : Float) (count : Nat) (machine : Machine) :
    ∃ later, (ofTicksLogged dt (count + 1) machine).1 = machine :: later ∧
      ∀ start ∈ later, start.breakpointHere?.isSome = false := by
  rcases ended : machine.tick dt with ⟨after, _ | fault⟩
  · refine ⟨(furtherLogged dt count after).1, ?_, fun _ => clear_of_mem_furtherLogged⟩
    simp only [ofTicksLogged, ended]
  · refine ⟨[], ?_, fun _ impossible => by cases impossible⟩
    simp only [ofTicksLogged, ended]

end Stretch

/-! ## Sessions -/

namespace Session

/-- A frame of the session starts at a breakpoint, and no control of the batch
prevents or explains it. -/
structure StartsOnBreakpoint (session : Session) (batch : Batch) : Prop where
  running : session.paused = false
  ticking : 0 < session.machine.config.ticksPerFrame
  here : session.machine.breakpointHere?.isSome = true
  quit : .quit ∉ batch
  step : .step ∉ batch
  pause : .pause ∉ batch

variable {session after : Session} {batch : Batch}

theorem pausedAfter_of_not_mem {paused : Bool} (pause : .pause ∉ batch) :
    pausedAfter paused batch = paused := by
  induction batch with
  | nil => rfl
  | cons control rest induction =>
      have later := induction (fun found => pause (List.mem_cons_of_mem _ found))
      cases control with
      | pause => exact absurd List.mem_cons_self pause
      | _ => exact later

theorem overruns_resumptions (ticked paused : Bool) (batch : Batch) :
    Event.overruns ticked (resumptions paused batch) = false := by
  induction batch generalizing ticked paused with
  | nil => rfl
  | cons control rest induction =>
      cases control with
      | pause =>
          cases paused with
          | true => exact induction false false
          | false => exact induction ticked true
      | _ => exact induction ticked paused

/-- After a resumption no tick is due to stop. -/
theorem due_resumptions (ticked paused : Bool) (batch : Batch) :
    Event.due ticked (resumptions paused batch) =
      (ticked && (resumptions paused batch).isEmpty) := by
  induction batch generalizing ticked paused with
  | nil => exact (Bool.and_true ticked).symm
  | cons control rest induction =>
      cases control with
      | pause =>
          cases paused with
          | true =>
              have later := induction false false
              rw [Bool.false_and] at later
              exact later.trans (Bool.and_false ticked).symm
          | false => exact induction ticked true
      | _ => exact induction ticked paused

/-- A session that runs after a batch was resumed by it unless it ran before and the
batch has no pause control. -/
theorem isEmpty_resumptions {paused : Bool} (running : pausedAfter paused batch = false) :
    (resumptions paused batch).isEmpty = true ↔ paused = false ∧ .pause ∉ batch := by
  induction batch generalizing paused with
  | nil => exact ⟨fun _ => ⟨running, List.not_mem_nil⟩, fun _ => rfl⟩
  | cons control rest induction =>
      cases control with
      | pause =>
          have never : ¬ (paused = false ∧ .pause ∉ Control.pause :: rest) :=
            fun both => both.2 List.mem_cons_self
          cases paused with
          | true => exact iff_of_false Bool.false_ne_true never
          | false =>
              have later : (resumptions true rest).isEmpty = true ↔ _ := induction running
              refine iff_of_false (fun empty => ?_) never
              cases (later.mp empty).1
      | _ =>
          rw [List.mem_cons, not_or]
          refine (induction running).trans ?_
          simp only [reduceCtorEq, not_false_eq_true, true_and]

theorem frameLogged_fst (session : Session) :
    session.frameLogged.1 =
      (Stretch.ofTicksLogged session.machine.config.tickSeconds
        session.machine.config.ticksPerFrame session.machine).1.map .ran := by
  simp only [frameLogged]
  split
  · next ended => rw [ended]
  · next ended => rw [ended]
  · next ended => rw [ended]

/-- A frame runs over a breakpoint exactly if its first tick starts there and is due. -/
theorem overruns_frameLogged (ticked : Bool) (session : Session) :
    Event.overruns ticked session.frameLogged.1 = true ↔
      ticked = true ∧ 0 < session.machine.config.ticksPerFrame ∧
        session.machine.breakpointHere?.isSome = true := by
  rw [frameLogged_fst]
  cases session.machine.config.ticksPerFrame with
  | zero =>
      refine iff_of_false Bool.false_ne_true ?_
      rintro ⟨_, impossible, _⟩
      cases impossible
  | succ count =>
      obtain ⟨later, recorded, clear⟩ := Stretch.ofTicksLogged_fst
        session.machine.config.tickSeconds count session.machine
      rw [recorded, List.map_cons, Event.overruns, Event.overruns_ran true clear, Bool.or_false,
        Bool.and_eq_true]
      simp only [Nat.succ_pos, true_and]

theorem due_frameLogged (ticked : Bool) (ticking : 0 < session.machine.config.ticksPerFrame) :
    Event.due ticked session.frameLogged.1 = true := by
  rw [frameLogged_fst]
  obtain ⟨count, positive⟩ := Nat.exists_eq_succ_of_ne_zero (Nat.pos_iff_ne_zero.mp ticking)
  obtain ⟨later, recorded, _⟩ := Stretch.ofTicksLogged_fst
    session.machine.config.tickSeconds count session.machine
  rw [positive, recorded]
  exact Event.due_ran later

/-- One batch leads over a breakpoint exactly if its frame starts there and is due. -/
theorem overruns_turnLogged (ticked : Bool) (session : Session) (batch : Batch) :
    Event.overruns ticked (session.turnLogged batch).1 = true ↔
      ticked = true ∧ session.StartsOnBreakpoint batch := by
  simp only [turnLogged]
  split
  · next quit =>
      rw [overruns_resumptions]
      exact iff_of_false Bool.false_ne_true fun both => both.2.quit quit
  · next noQuit =>
      split
      · next step =>
          rw [Event.overruns_append, overruns_resumptions]
          exact iff_of_false Bool.false_ne_true fun both => both.2.step step
      · next noStep =>
          split
          · next paused =>
              rw [overruns_resumptions]
              refine iff_of_false Bool.false_ne_true ?_
              rintro ⟨_, starts⟩
              -- without a pause control a session that ran is not paused now
              have still := (pausedAfter_of_not_mem starts.pause).trans starts.running
              exact Bool.false_ne_true (still.symm.trans paused)
          · next running =>
              have running : pausedAfter session.paused batch = false :=
                Bool.eq_false_iff.mpr running
              rw [Event.overruns_append, overruns_resumptions, Bool.false_or,
                overruns_frameLogged, due_resumptions, Bool.and_eq_true,
                isEmpty_resumptions running]
              constructor
              · rintro ⟨⟨due, before, pause⟩, ticking, here⟩
                exact ⟨due, before, ticking, here, noQuit, noStep, pause⟩
              · rintro ⟨due, starts⟩
                exact ⟨⟨due, starts.running, starts.pause⟩, starts.ticking, starts.here⟩

theorem paused_of_stepOnce (shown : session.stepOnce = .shown after) : after.paused = true := by
  rw [stepOnce] at shown
  rcases ended : session.machine.tick session.machine.config.tickSeconds with
    ⟨machine, _ | fault⟩
  · simp only [ended] at shown
    cases shown
    rfl
  · simp only [ended] at shown
    cases shown

/-- A frame after which the session still runs has kept the configuration. -/
theorem config_of_runFrame (shown : session.runFrame = .shown after)
    (running : after.paused = false) : after.machine.config = session.machine.config := by
  simp only [runFrame] at shown
  split at shown
  · next machine ended =>
      cases shown
      exact (Stretch.sameFixtures_of_ofTicks ended).config
  · cases shown
    cases running
  · cases shown

/-- A session that plays a batch and still runs has ticked, so the next tick is due. -/
theorem due_turnLogged (ticked : Bool) (shown : session.turn batch = .shown after)
    (running : after.paused = false) (ticking : 0 < after.machine.config.ticksPerFrame) :
    Event.due ticked (session.turnLogged batch).1 = true := by
  simp only [turn] at shown
  simp only [turnLogged]
  split at shown
  · cases shown
  · next noQuit =>
      split at shown
      · rw [paused_of_stepOnce shown] at running
        cases running
      · next noStep =>
          split at shown
          · next paused =>
              cases shown
              rw [running] at paused
              cases paused
          · next runs =>
              rw [config_of_runFrame shown running] at ticking
              rw [if_neg noQuit, if_neg noStep, if_neg runs, Event.due_append]
              exact due_frameLogged _ ticking

/-! ## Runs -/

theorem run_of_shown (shown : session.turn batch = .shown after) (rest : List Batch) :
    (session.run (batch :: rest)).ending = (after.run rest).ending ∧
      (session.run (batch :: rest)).session = (after.run rest).session := by
  rw [run, shown]
  exact ⟨rfl, rfl⟩

theorem shown_of_starved {rest : List Batch}
    (starved : (session.run (batch :: rest)).ending = .starved) :
    ∃ after, session.turn batch = .shown after := by
  rw [run] at starved
  cases played : session.turn batch with
  | left after =>
      rw [played] at starved
      cases starved
  | failed after fault =>
      rw [played] at starved
      cases starved
  | shown after => exact ⟨after, rfl⟩

theorem runLogged_fst_of_shown (shown : session.turn batch = .shown after) (rest : List Batch) :
    (session.runLogged (batch :: rest)).1 =
      (session.turnLogged batch).1 ++ (after.runLogged rest).1 := by
  rw [← turnLogged_snd] at shown
  rcases played : session.turnLogged batch with ⟨events, turn⟩
  rw [played] at shown
  cases shown
  simp only [runLogged, played]

theorem runLogged_fst_of_not_shown (never : ∀ after, session.turn batch ≠ .shown after)
    (rest : List Batch) :
    (session.runLogged (batch :: rest)).1 = (session.turnLogged batch).1 := by
  rw [← turnLogged_snd] at never
  rcases played : session.turnLogged batch with ⟨events, _ | _ | after⟩
  · simp only [runLogged, played]
  · simp only [runLogged, played]
  · rw [played] at never
    exact absurd rfl (never after)

/-- What one batch leads over, the run leads over. -/
theorem overruns_of_turnLogged {ticked : Bool} (rest : List Batch)
    (crossed : Event.overruns ticked (session.turnLogged batch).1 = true) :
    Event.overruns ticked (session.runLogged (batch :: rest)).1 = true := by
  by_cases shown : ∃ after, session.turn batch = .shown after
  · obtain ⟨after, shown⟩ := shown
    rw [runLogged_fst_of_shown shown, Event.overruns_append, crossed, Bool.true_or]
  · rw [runLogged_fst_of_not_shown (not_exists.mp shown), crossed]

/-- A run leads over a breakpoint exactly if a frame of it starts there and is due.  It is
due at the first frame if it was before, and at every later frame. -/
theorem overruns_runLogged (ticked : Bool) (session : Session) (batches : List Batch) :
    Event.overruns ticked (session.runLogged batches).1 = true ↔
      ∃ before next rest, batches = before ++ next :: rest ∧ (before ≠ [] ∨ ticked = true) ∧
        (session.run before).ending = .starved ∧
        (session.run before).session.StartsOnBreakpoint next := by
  induction batches generalizing session ticked with
  | nil =>
      refine iff_of_false Bool.false_ne_true ?_
      rintro ⟨before, next, rest, split, _⟩
      cases before <;> cases split
  | cons batch batches induction =>
      have first := overruns_turnLogged ticked session batch
      constructor
      · intro crossed
        by_cases shown : ∃ after, session.turn batch = .shown after
        · obtain ⟨after, shown⟩ := shown
          rw [runLogged_fst_of_shown shown, Event.overruns_append, Bool.or_eq_true] at crossed
          rcases crossed with now | later
          · obtain ⟨due, starts⟩ := first.mp now
            exact ⟨[], batch, batches, rfl, Or.inr due, rfl, starts⟩
          · obtain ⟨before, next, rest, rfl, _, starved, starts⟩ := (induction _ after).mp later
            obtain ⟨sameEnding, sameSession⟩ := run_of_shown shown before
            exact ⟨batch :: before, next, rest, rfl, Or.inl (List.cons_ne_nil _ _),
              sameEnding.trans starved, sameSession ▸ starts⟩
        · rw [runLogged_fst_of_not_shown (not_exists.mp shown)] at crossed
          obtain ⟨due, starts⟩ := first.mp crossed
          exact ⟨[], batch, batches, rfl, Or.inr due, rfl, starts⟩
      · rintro ⟨before, next, rest, split, due, starved, starts⟩
        cases before with
        | nil =>
            cases split
            have due : ticked = true := due.resolve_left fun nonempty => nonempty rfl
            exact overruns_of_turnLogged _ (first.mpr ⟨due, starts⟩)
        | cons head before =>
            cases split
            obtain ⟨after, shown⟩ := shown_of_starved starved
            obtain ⟨sameEnding, sameSession⟩ := run_of_shown shown before
            -- the rest of the run is due from its first frame on: if that is the frame in
            -- question, then the session still ran and so this batch has ticked
            rw [sameEnding] at starved
            rw [sameSession] at starts
            rw [runLogged_fst_of_shown shown, Event.overruns_append, Bool.or_eq_true]
            refine Or.inr ((induction _ after).mpr ⟨before, next, rest, rfl, ?_, starved, starts⟩)
            cases before with
            | nil => exact Or.inr (due_turnLogged ticked shown starts.running starts.ticking)
            | cons head before => exact Or.inl (List.cons_ne_nil _ _)

/-- A run stops at every breakpoint, but for those at which it starts or goes on after a
pause, exactly if no frame comes to its end at a breakpoint and is followed by a frame
without a pause control. -/
theorem stops_at_breakpoints_iff (session : Session) (batches : List Batch) :
    (session.runLogged batches).2 = session.run batches ∧
      (Event.overruns false (session.runLogged batches).1 = false ↔
        ∀ before next rest, batches = before ++ next :: rest → before ≠ [] →
          (session.run before).ending = .starved →
            ¬ (session.run before).session.StartsOnBreakpoint next) := by
  refine ⟨runLogged_snd session batches, ?_⟩
  -- no tick has run before the first batch, so the first frame is never due
  rw [← Bool.not_eq_true, overruns_runLogged]
  constructor
  · intro never before next rest split later starved starts
    exact never ⟨before, next, rest, split, Or.inl later, starved, starts⟩
  · rintro clear ⟨before, next, rest, split, later, starved, starts⟩
    have later : before ≠ [] := later.resolve_right Bool.false_ne_true
    exact clear before next rest split later starved starts

/-- With one tick for each frame, every tick is the first of its frame, so the session
runs over the breakpoint behind the first instruction. -/
theorem launched_session_overruns :
    ∃ session,
      launch
        { program := "bp", startPaused := false, wrap := false, framesPerSecond := 30,
          ticksPerFrame := 1, seed? := some 0, breakpoints := [0x202] } 0
        (.file [0x60, 0x01, 0x61, 0x02, 0x12, 0x04]) = .ok session ∧
      session.machine.config.instructionsPerTick = 1 ∧
      Event.overruns false (session.runLogged [[], []]).1 = true := by
  have played :
      ((launch
        { program := "bp", startPaused := false, wrap := false, framesPerSecond := 30,
          ticksPerFrame := 1, seed? := some 0, breakpoints := [0x202] } 0
        (.file [0x60, 0x01, 0x61, 0x02, 0x12, 0x04])).map fun session =>
          decide (session.machine.config.instructionsPerTick = 1) &&
            Event.overruns false (session.runLogged [[], []]).1).toOption = some true := by
    decide +kernel
  revert played
  rcases launch _ 0 _ with fault | session
  · intro impossible
    cases impossible
  · intro played
    obtain ⟨single, crossed⟩ := (Bool.and_eq_true _ _).mp (Option.some.inj played)
    exact ⟨session, rfl, of_decide_eq_true single, crossed⟩

end Session

end Chip8

import Chip8.Console.Launch
import Chip8.Proofs.Fixtures
import Chip8.Proofs.Requests

/-!
# Frames of a session

A frame of a session and a frame of its machine are two loops over the same ticks.  They
part only where the session finds a breakpoint between two ticks.  The first place
where it does is a halt: some ticks of the frame have run, others are still to come,
and the program counter is at a breakpoint.  So a frame of a session runs the ticks up
to its first halt, or, if there is none, the frame of its machine.

Together with the two other things that a batch can ask for, a single step and a rest,
this gives every frame a number of ticks that is known before it starts (`Schedule`),
and the frame is what that number of ticks leads to (`proceeds_of_schedule`).

Behind its ticks a frame shows a picture.  What must be seen on it is said in
`Picture.Shows`, word for word, and not by the function that makes it.
-/

namespace Chip8

namespace Machine

variable {machine halted : Machine} {dt : Float} {count : Nat}

/-! ## Halts -/

/-- The program counter is at a breakpoint. -/
def AtBreakpoint (machine : Machine) : Prop :=
  ∃ breakpoint ∈ machine.breakpoints.entries, breakpoint.address = machine.pc

theorem isSome_breakpointHere?_iff :
    machine.breakpointHere?.isSome = true ↔ machine.AtBreakpoint := by
  simp only [breakpointHere?, Breakpoints.get?, List.find?_isSome, decide_eq_true_eq, AtBreakpoint]

/-- Some ticks of a frame have run, others are still to come, and the machine is at a
breakpoint. -/
structure HaltsAfter (machine : Machine) (count : Nat) (halted : Machine) : Prop where
  begun : 1 ≤ count
  early : count < machine.config.ticksPerFrame
  ticked : ticks machine.config.tickSeconds count machine = ⟨halted, none⟩
  here : halted.AtBreakpoint

/-- The halt after the fewest ticks. -/
structure FirstHalt (machine : Machine) (count : Nat) (halted : Machine) : Prop extends
    machine.HaltsAfter count halted where
  least : ∀ fewer between, machine.HaltsAfter fewer between → count ≤ fewer

theorem exists_firstHalt (halts : machine.HaltsAfter count halted) :
    ∃ count halted, machine.FirstHalt count halted := by
  induction count using Nat.strongRecOn generalizing halted with
  | ind count induction =>
      by_cases sooner : ∃ fewer < count, ∃ between, machine.HaltsAfter fewer between
      · obtain ⟨fewer, less, between, halts⟩ := sooner
        exact induction fewer less halts
      · refine ⟨count, halted, halts, fun fewer between halts => ?_⟩
        exact Nat.not_lt.mp fun less => sooner ⟨fewer, less, between, halts⟩

/-- Without breakpoints there are no halts. -/
theorem not_haltsAfter_of_free (free : machine.breakpoints.entries = []) (count : Nat)
    (halted : Machine) : ¬ machine.HaltsAfter count halted := by
  intro halts
  have kept := (sameFixtures_ticks machine.config.tickSeconds count machine).breakpoints
  obtain ⟨breakpoint, found, _⟩ := halts.here
  rw [halts.ticked] at kept
  rw [kept, free] at found
  cases found

/-! ## Counted ticks -/

theorem ticks_one (dt : Float) (machine : Machine) : ticks dt 1 machine = machine.tick dt := by
  rw [ticks]
  rcases machine.tick dt with ⟨after, _ | fault⟩
  · rfl
  · rfl

theorem ticks_succ_of_tick {next : Machine} (ticked : machine.tick dt = ⟨next, none⟩)
    (count : Nat) : ticks dt (count + 1) machine = ticks dt count next := by
  rw [ticks, ticked]

/-- If several ticks succeed, then the first one does. -/
theorem tick_of_ticks_succ (ticked : ticks dt (count + 1) machine = ⟨halted, none⟩) :
    ∃ next, machine.tick dt = ⟨next, none⟩ ∧ ticks dt count next = ⟨halted, none⟩ := by
  rw [ticks] at ticked
  rcases first : machine.tick dt with ⟨next, _ | fault⟩
  · rw [first] at ticked
    exact ⟨next, rfl, ticked⟩
  · rw [first] at ticked
    cases ticked

/-- The machine is at no breakpoint before a number of ticks have run. -/
def ClearFor (machine : Machine) (dt : Float) (count : Nat) : Prop :=
  ∀ fewer < count, ∀ between, ticks dt fewer machine = ⟨between, none⟩ → ¬ between.AtBreakpoint

theorem ClearFor.next {next : Machine} (clear : machine.ClearFor dt (count + 1))
    (ticked : machine.tick dt = ⟨next, none⟩) : next.ClearFor dt count := by
  intro fewer less between later
  rw [← ticks_succ_of_tick ticked] at later
  exact clear (fewer + 1) (Nat.succ_lt_succ less) between later

theorem ClearFor.here (clear : machine.ClearFor dt (count + 1)) :
    ¬ machine.breakpointHere?.isSome = true := by
  rw [isSome_breakpointHere?_iff]
  exact clear 0 (Nat.succ_pos count) machine rfl

end Machine

/-! ## Pictures -/

/-- The picture has the pixels of the machine's screen.  The line above them starts with the
name of the program.  It says that the session is paused if it is, and then that the machine
beeps, which it does until its sound timer is zero. -/
structure Picture.Shows (picture : Picture) (name : String) (machine : Machine)
    (paused : Bool) : Prop where
  screen : picture.screen = machine.screen
  running : paused = false → machine.sound.value = 0 → picture.caption = "CHIP-8: " ++ name
  resting : paused = true → machine.sound.value = 0 →
    picture.caption = "CHIP-8: " ++ name ++ " (PAUSED)"
  beeping : paused = false → 0 < machine.sound.value →
    picture.caption = "CHIP-8: " ++ name ++ " *BEEP*"
  restingBeeping : paused = true → 0 < machine.sound.value →
    picture.caption = "CHIP-8: " ++ name ++ " (PAUSED)" ++ " *BEEP*"

/-- There is one picture of a machine. -/
theorem Picture.Shows.unique {first second : Picture} {name : String} {machine : Machine}
    {paused : Bool} (one : first.Shows name machine paused)
    (other : second.Shows name machine paused) : first = second := by
  have captions : first.caption = second.caption := by
    by_cases silent : machine.sound.value = 0
    · cases paused with
      | false => rw [one.running rfl silent, other.running rfl silent]
      | true => rw [one.resting rfl silent, other.resting rfl silent]
    · have sounding := UInt8.pos_iff_ne_zero.mpr silent
      cases paused with
      | false => rw [one.beeping rfl sounding, other.beeping rfl sounding]
      | true => rw [one.restingBeeping rfl sounding, other.restingBeeping rfl sounding]
  have screens := one.screen.trans other.screen.symm
  cases first
  cases second
  cases screens
  cases captions
  rfl

/-- A session draws the picture that must be seen. -/
theorem Session.shows_picture (session : Session) :
    session.picture.Shows session.name session.machine session.paused where
  screen := rfl
  running unpaused silent := by simp [picture, caption, unpaused, silent]
  resting paused silent := by simp [picture, caption, paused, silent]
  beeping unpaused sounding := by simp [picture, caption, unpaused, sounding]
  restingBeeping paused sounding := by simp [picture, caption, paused, sounding]

/-! ## The two loops -/

namespace Stretch

variable {machine halted : Machine} {dt : Float} {count limit : Nat}

/-- The end of a stretch that no breakpoint stops. -/
def ofOutcome : Outcome → Stretch
  | ⟨machine, none⟩ => .finished machine
  | ⟨machine, some fault⟩ => .failed machine fault

theorem further_of_clear (clear : machine.ClearFor dt count) :
    further dt count machine = ofOutcome (Machine.ticks dt count machine) := by
  induction count generalizing machine with
  | zero => rfl
  | succ count induction =>
      rw [further, if_neg clear.here, Machine.ticks]
      rcases ticked : machine.tick dt with ⟨next, _ | fault⟩
      · exact induction (clear.next ticked)
      · rfl

theorem further_of_halt (clear : machine.ClearFor dt count) (early : count < limit)
    (ticked : Machine.ticks dt count machine = ⟨halted, none⟩) (here : halted.AtBreakpoint) :
    further dt limit machine = .stopped halted := by
  induction count generalizing machine limit with
  | zero =>
      obtain ⟨limit, rfl⟩ := Nat.exists_eq_add_one_of_ne_zero (Nat.ne_zero_of_lt early)
      cases ticked
      rw [further, if_pos (Machine.isSome_breakpointHere?_iff.mpr here)]
  | succ count induction =>
      obtain ⟨limit, rfl⟩ := Nat.exists_eq_add_one_of_ne_zero (Nat.ne_zero_of_lt early)
      obtain ⟨next, first, later⟩ := Machine.tick_of_ticks_succ ticked
      rw [further, if_neg clear.here, first]
      exact induction (clear.next first) (Nat.lt_of_succ_lt_succ early) later

/-- A frame stops at its first halt. -/
theorem ofTicks_of_firstHalt (first : machine.FirstHalt count halted) :
    ofTicks machine.config.tickSeconds machine.config.ticksPerFrame machine =
      .stopped halted := by
  obtain ⟨count, rfl⟩ := Nat.exists_eq_add_one_of_ne_zero (Nat.ne_zero_of_lt first.begun)
  have early := first.early
  obtain ⟨limit, several⟩ :=
    Nat.exists_eq_add_one_of_ne_zero (Nat.ne_zero_of_lt early)
  obtain ⟨next, begun, later⟩ := Machine.tick_of_ticks_succ first.ticked
  rw [several] at early
  rw [several, ofTicks, begun]
  refine further_of_halt ?_ (Nat.lt_of_succ_lt_succ early) later first.here
  -- a breakpoint between the two would be an earlier halt
  intro fewer less between reached here
  have sooner : machine.HaltsAfter (fewer + 1) between :=
    ⟨Nat.succ_pos fewer, by omega, (Machine.ticks_succ_of_tick begun fewer).trans reached, here⟩
  have least := first.least _ _ sooner
  omega

/-- A frame without a halt is the frame of its machine. -/
theorem ofTicks_of_no_halt (free : ∀ count halted, ¬ machine.HaltsAfter count halted) :
    ofTicks machine.config.tickSeconds machine.config.ticksPerFrame machine =
      ofOutcome machine.frame := by
  rw [Machine.frame]
  cases several : machine.config.ticksPerFrame with
  | zero => rfl
  | succ limit =>
      rw [ofTicks, Machine.ticks]
      rcases begun : machine.tick machine.config.tickSeconds with ⟨next, _ | fault⟩
      · refine further_of_clear fun fewer less between reached here => ?_
        refine free (fewer + 1) between ⟨Nat.succ_pos fewer, by omega, ?_, here⟩
        exact (Machine.ticks_succ_of_tick begun fewer).trans reached
      · rfl

end Stretch

/-! ## Frames by their number of ticks -/

namespace Session

/-- The run has shown some pictures before. -/
def Run.behind (run : Run) (pictures : List Picture) : Run :=
  { run with pictures := pictures ++ run.pictures }

/-- How a run goes on behind the ticks of a frame.  They are followed by a picture and by
the other batches, unless one of them failed. -/
inductive Proceeds (ready : Session) (paused : Bool) (rest : List Batch) :
    Outcome → Run → Prop where
  | shown (machine : Machine) (picture : Picture)
      (shows : picture.Shows ready.name machine paused) :
      Proceeds ready paused rest ⟨machine, none⟩
        (({ ready with machine, paused }.run rest).behind [picture])
  | failed (machine : Machine) (fault : Fault) :
      Proceeds ready paused rest ⟨machine, some fault⟩
        ⟨{ ready with machine, paused }, [], .failed fault⟩

/-- How many ticks a frame runs unless one of them fails, and whether the session is
paused behind them. -/
inductive Schedule (ready : Session) (batch : Batch) : Nat → Bool → Prop where
  | stepped (step : .step ∈ batch) : Schedule ready batch 1 true
  | rested (step : .step ∉ batch) (resting : ready.paused = true) : Schedule ready batch 0 true
  | halted (count : Nat) (halted : Machine) (step : .step ∉ batch)
      (running : ready.paused = false) (first : ready.machine.FirstHalt count halted) :
      Schedule ready batch count true
  | whole (step : .step ∉ batch) (running : ready.paused = false)
      (free : ∀ count halted, ¬ ready.machine.HaltsAfter count halted) :
      Schedule ready batch ready.machine.config.ticksPerFrame false

variable {session ready : Session} {batch : Batch} {rest : List Batch} {count : Nat}
  {paused : Bool}

theorem exists_schedule (ready : Session) (batch : Batch) :
    ∃ count paused, ready.Schedule batch count paused := by
  by_cases step : .step ∈ batch
  · exact ⟨1, true, .stepped step⟩
  · cases running : ready.paused with
    | true => exact ⟨0, true, .rested step running⟩
    | false =>
        by_cases halts : ∃ count halted, ready.machine.HaltsAfter count halted
        · obtain ⟨_, _, halts⟩ := halts
          obtain ⟨count, halted, first⟩ := Machine.exists_firstHalt halts
          exact ⟨count, true, .halted count halted step running first⟩
        · exact ⟨_, false, .whole step running fun count halted halt => halts ⟨count, halted, halt⟩⟩

theorem turn_of_staying (session : Session) (staying : .quit ∉ batch) :
    session.turn batch =
      if .step ∈ batch then (session.receive batch).stepOnce
      else if (session.receive batch).paused then .shown (session.receive batch)
      else (session.receive batch).runFrame :=
  if_neg staying

/-- Behind ticks that succeed there is a picture of the machine. -/
theorem Proceeds.exists_picture {machine : Machine} {after : Run}
    (proceeds : ready.Proceeds paused rest ⟨machine, none⟩ after) :
    ∃ picture : Picture, picture.Shows ready.name machine paused ∧
      after = ({ ready with machine, paused }.run rest).behind [picture] := by
  cases proceeds with
  | shown machine picture shows => exact ⟨picture, shows, rfl⟩

/-- Behind a tick that fails there is nothing. -/
theorem Proceeds.eq_failed {machine : Machine} {fault : Fault} {after : Run}
    (proceeds : ready.Proceeds paused rest ⟨machine, some fault⟩ after) :
    after = ⟨{ ready with machine, paused }, [], .failed fault⟩ := by
  cases proceeds with
  | failed machine fault => rfl

/-- A turn that shows a picture is followed by the other batches. -/
theorem proceeds_of_shown {machine : Machine} {shown : Session}
    (played : session.turn batch = .shown shown)
    (same : shown = { ready with machine, paused }) (rest : List Batch) :
    ready.Proceeds paused rest ⟨machine, none⟩ (session.run (batch :: rest)) := by
  rw [run, played, same]
  exact .shown machine _ (shows_picture { ready with machine, paused })

/-- A turn with a failing tick ends the run. -/
theorem proceeds_of_failed {machine : Machine} {fault : Fault} {left : Session}
    (played : session.turn batch = .failed left fault)
    (same : left = { ready with machine, paused }) (rest : List Batch) :
    ready.Proceeds paused rest ⟨machine, some fault⟩ (session.run (batch :: rest)) := by
  rw [run, played, same]
  exact .failed machine fault

/-- The ticks of the schedule decide how a run goes on. -/
theorem proceeds_of_schedule (staying : .quit ∉ batch)
    (schedule : (session.receive batch).Schedule batch count paused) (rest : List Batch) :
    (session.receive batch).Proceeds paused rest
      (Machine.ticks (session.receive batch).machine.config.tickSeconds count
        (session.receive batch).machine) (session.run (batch :: rest)) := by
  have turned := session.turn_of_staying staying
  generalize session.receive batch = ready at schedule turned
  cases schedule with
  | stepped step =>
      rw [if_pos step, stepOnce] at turned
      rw [Machine.ticks_one]
      rcases ticked : ready.machine.tick ready.machine.config.tickSeconds with ⟨machine, _ | fault⟩
      · rw [ticked] at turned
        exact proceeds_of_shown turned rfl rest
      · rw [ticked] at turned
        exact proceeds_of_failed turned rfl rest
  | rested step resting =>
      rw [if_neg step, if_pos resting] at turned
      exact proceeds_of_shown turned (by rw [← resting]) rest
  | halted count halted step running first =>
      rw [if_neg step, if_neg (Bool.eq_false_iff.mp running), runFrame] at turned
      simp only [Stretch.ofTicks_of_firstHalt first] at turned
      rw [first.ticked]
      exact proceeds_of_shown turned rfl rest
  | whole step running free =>
      have same (machine : Machine) :
          { ready with machine } = { ready with machine, paused := false } := by rw [← running]
      rw [if_neg step, if_neg (Bool.eq_false_iff.mp running), runFrame] at turned
      simp only [Stretch.ofTicks_of_no_halt free, Machine.frame] at turned
      rcases ticked : Machine.ticks _ _ ready.machine with ⟨machine, _ | fault⟩
      · simp only [ticked, Stretch.ofOutcome] at turned
        exact proceeds_of_shown turned (same machine) rest
      · simp only [ticked, Stretch.ofOutcome] at turned
        exact proceeds_of_failed turned (same machine) rest

/-- A frame that neither steps nor rests stops at its first halt with the machine that it
has there.  It draws that machine, and the session is paused from then on.  If there is no
halt, as is the case without breakpoints, it is the frame of the machine, and the session
goes on unpaused. -/
theorem frame_until_halt (session : Session) (batch : Batch) (rest : List Batch)
    (quit : .quit ∉ batch) (step : .step ∉ batch)
    (running : (session.receive batch).paused = false) :
    let ready := session.receive batch
    ((∃ count halted, ready.machine.HaltsAfter count halted) →
      ∃ count halted picture, ready.machine.FirstHalt count halted ∧
        picture.Shows session.name halted true ∧
        session.run (batch :: rest) =
          ({ ready with machine := halted, paused := true }.run rest).behind [picture]) ∧
    ((∀ count halted, ¬ ready.machine.HaltsAfter count halted) →
      ready.Proceeds false rest ready.machine.frame (session.run (batch :: rest))) ∧
    (session.machine.breakpoints.entries = [] →
      ready.Proceeds false rest ready.machine.frame (session.run (batch :: rest))) := by
  intro ready
  have whole (free : ∀ count halted, ¬ ready.machine.HaltsAfter count halted) :
      ready.Proceeds false rest ready.machine.frame (session.run (batch :: rest)) :=
    proceeds_of_schedule quit (.whole step running free) rest
  refine ⟨?_, whole, fun none => whole (Machine.not_haltsAfter_of_free none)⟩
  rintro ⟨_, _, halts⟩
  obtain ⟨count, halted, first⟩ := Machine.exists_firstHalt halts
  have proceeds := proceeds_of_schedule quit (.halted count halted step running first) rest
  rw [first.ticked] at proceeds
  obtain ⟨picture, shows, same⟩ := proceeds.exists_picture
  exact ⟨count, halted, picture, first, shows, same⟩

/-- A frame of three ticks with a breakpoint behind two of them, and the same frame
without the breakpoint. -/
theorem frame_halts_between_ticks :
    ∃ session free : Session,
      Control.quit ∉ [Control.key 1] ∧ Control.step ∉ [Control.key 1] ∧
      (session.receive [.key 1]).paused = false ∧ (free.receive [.key 1]).paused = false ∧
      (∃ count halted picture, (session.receive [.key 1]).machine.FirstHalt count halted ∧
        picture.Shows session.name halted true ∧
        session.run [[.key 1], [.quit]] =
          ({ session.receive [.key 1] with machine := halted, paused := true }.run
            [[.quit]]).behind [picture]) ∧
      free.machine.breakpoints.entries = [] ∧
      (∀ count halted, ¬ (free.receive [.key 1]).machine.HaltsAfter count halted) ∧
      (free.receive [.key 1]).Proceeds false [[.quit]] (free.receive [.key 1]).machine.frame
        (free.run [[.key 1], [.quit]]) := by
  have played :
      ((launch
        { program := "halt", startPaused := false, wrap := false, framesPerSecond := 30,
          ticksPerFrame := 3, seed? := some 0, breakpoints := [0x204] } 0
        (.file [0x60, 0x01, 0x61, 0x02, 0x12, 0x04])).map fun session =>
          let machine := (session.receive [.key 1]).machine
          let ended := Machine.ticks machine.config.tickSeconds 2 machine
          !session.paused && decide (machine.config.ticksPerFrame = 3) &&
            decide (ended.fault? = none) && ended.machine.breakpointHere?.isSome &&
            decide ((session.machine.removeBreakpoint 0x204).breakpoints.entries = [])).toOption =
        some true := by
    decide +kernel
  obtain ⟨session, _, played⟩ := exists_ok_of_map played
  simp only [Bool.and_eq_true, Bool.not_eq_true', decide_eq_true_eq] at played
  obtain ⟨⟨⟨⟨running, three⟩, successful⟩, here⟩, cleared⟩ := played
  let free := { session with machine := session.machine.removeBreakpoint 0x204 }
  have quit : Control.quit ∉ [Control.key 1] := by decide
  have step : Control.step ∉ [Control.key 1] := by decide
  have halts : (session.receive [.key 1]).machine.HaltsAfter 2 _ :=
    { begun := by decide
      early := by rw [three]; decide
      ticked := congrArg (Outcome.mk _) successful
      here := Machine.isSome_breakpointHere?_iff.mp here }
  have never : ∀ count halted, ¬ (free.receive [.key 1]).machine.HaltsAfter count halted :=
    Machine.not_haltsAfter_of_free cleared
  exact ⟨session, free, quit, step, running, running,
    (frame_until_halt session _ [[.quit]] quit step running).1 ⟨2, _, halts⟩, cleared, never,
    (frame_until_halt free _ [[.quit]] quit step running).2.1 never⟩

end Session

end Chip8

import Chip8.Proofs.Frames

/-!
# The course of a session

A session plays one frame for each batch that stays.  Its course is the list of these
frames: each hears its batch, runs the ticks of its schedule, and shows the picture
that they lead to.  A course can come to an end in two ways.  The player leaves, which
runs and shows nothing, or a tick of the next frame fails.  What happens behind either
of them plays no part.

So the pictures of a run count its frames, and the run fails exactly if its course
comes to a frame with a failing tick before the player leaves.
-/

namespace Chip8

namespace Session

variable {session reached left : Session} {batch : Batch} {batches rest : List Batch}
  {pictures : List Picture} {fault : Fault}

/-! ## Hearing a batch -/

/-- The session that has heard a batch: exactly the keys that are held are down, and
every pause control has turned the pause over once. -/
def heard (session : Session) (batch : Batch) : Session :=
  let hold := session.hold.update batch
  { session with
    hold
    machine := { session.machine with keys := hold.keypad }
    paused := Nat.repeat not (batch.count .pause) session.paused }

theorem repeat_not_not (count : Nat) (paused : Bool) :
    Nat.repeat not count (!paused) = !Nat.repeat not count paused := by
  induction count with
  | zero => rfl
  | succ count induction => exact congrArg not induction

theorem pausedAfter_eq_repeat (paused : Bool) (batch : Batch) :
    pausedAfter paused batch = Nat.repeat not (batch.count .pause) paused := by
  induction batch generalizing paused with
  | nil => rfl
  | cons control rest induction =>
      cases control with
      | pause => rw [pausedAfter, induction, repeat_not_not, List.count_cons_self, Nat.repeat]
      | _ => simp [pausedAfter, induction]

theorem receive_eq_heard (session : Session) (batch : Batch) :
    session.receive batch = session.heard batch := by
  rw [receive, heard, pausedAfter_eq_repeat]
  rfl

/-! ## Frames in a row -/

/-- The frames of some batches, with their pictures and the session behind them. -/
inductive Course : Session → List Batch → List Picture → Session → Prop where
  | start (session : Session) : Course session [] [] session
  | frame {session reached : Session} {batch : Batch} {rest : List Batch}
      {pictures : List Picture} (count : Nat) (paused : Bool) (machine : Machine)
      (picture : Picture) (staying : .quit ∉ batch)
      (schedule : (session.heard batch).Schedule batch count paused)
      (ticked : Machine.ticks session.machine.config.tickSeconds count
        (session.heard batch).machine = ⟨machine, none⟩)
      (shows : picture.Shows session.name machine paused)
      (later : Course { session.heard batch with machine, paused } rest pictures reached) :
      Course session (batch :: rest) (picture :: pictures) reached

/-- A tick of the frame fails and leaves the session behind. -/
inductive Breaks (session : Session) (batch : Batch) (fault : Fault) : Session → Prop where
  | frame (count : Nat) (paused : Bool) (machine : Machine)
      (staying : .quit ∉ batch)
      (schedule : (session.heard batch).Schedule batch count paused)
      (ticked : Machine.ticks session.machine.config.tickSeconds count
        (session.heard batch).machine = ⟨machine, some fault⟩) :
      Breaks session batch fault { session.heard batch with machine, paused }

theorem proceeds_of_frame {outcome : Outcome} {count : Nat} {paused : Bool}
    (staying : .quit ∉ batch)
    (schedule : (session.heard batch).Schedule batch count paused)
    (ticked : Machine.ticks session.machine.config.tickSeconds count
      (session.heard batch).machine = outcome) (rest : List Batch) :
    (session.heard batch).Proceeds paused rest outcome (session.run (batch :: rest)) := by
  rw [← receive_eq_heard] at schedule ticked ⊢
  rw [← ticked]
  -- the held keys are no part of the configuration
  exact proceeds_of_schedule staying schedule rest

theorem run_of_course (course : Course session batches pictures reached) (rest : List Batch) :
    session.run (batches ++ rest) = (reached.run rest).behind pictures := by
  induction course with
  | start session => rfl
  | frame count paused machine picture staying schedule ticked shows later induction =>
      obtain ⟨drawn, shows', same⟩ := (proceeds_of_frame staying schedule ticked _).exists_picture
      rw [List.cons_append, same, induction, shows'.unique shows]
      rfl

theorem run_of_breaks (breaks : session.Breaks batch fault left) (rest : List Batch) :
    session.run (batch :: rest) = ⟨left, [], .failed fault⟩ := by
  cases breaks with
  | frame count paused machine staying schedule ticked =>
      exact (proceeds_of_frame staying schedule ticked rest).eq_failed

theorem run_of_quit (quit : .quit ∈ batch) (rest : List Batch) :
    session.run (batch :: rest) = ⟨session.heard batch, [], .quit⟩ := by
  rw [run, turn, if_pos quit, receive_eq_heard]

theorem Course.length (course : Course session batches pictures reached) :
    pictures.length = batches.length := by
  induction course with
  | start session => rfl
  | frame count paused machine picture staying schedule ticked shows later induction =>
      rw [List.length_cons, List.length_cons, induction]

/-- The course comes to a frame with a failing tick. -/
def BreaksWithin (session : Session) (batches : List Batch) : Prop :=
  ∃ played batch later pictures reached fault left, batches = played ++ batch :: later ∧
    Course session played pictures reached ∧ reached.Breaks batch fault left

/-- Batches that stay have a course, unless a tick fails on the way. -/
theorem exists_course (staying : ∀ batch ∈ batches, .quit ∉ batch) :
    (∃ pictures reached, Course session batches pictures reached) ∨
      session.BreaksWithin batches := by
  induction batches generalizing session with
  | nil => exact Or.inl ⟨[], session, .start session⟩
  | cons batch rest induction =>
      obtain ⟨now, later⟩ := List.forall_mem_cons.mp staying
      obtain ⟨count, paused, schedule⟩ := exists_schedule (session.heard batch) batch
      rcases ticked : Machine.ticks session.machine.config.tickSeconds count
        (session.heard batch).machine with ⟨machine, _ | fault⟩
      · have shows := shows_picture { session.heard batch with machine, paused }
        rcases @induction { session.heard batch with machine, paused } later with
          ⟨pictures, reached, course⟩ |
          ⟨played, next, rest, pictures, reached, fault, left, rfl, course, breaks⟩
        · exact Or.inl ⟨_, reached, .frame count paused machine _ now schedule ticked shows course⟩
        · exact Or.inr ⟨batch :: played, next, rest, _, reached, fault, left, rfl,
            .frame count paused machine _ now schedule ticked shows course, breaks⟩
      · exact Or.inr ⟨[], batch, rest, [], session, fault, _, rfl, .start session,
          .frame count paused machine now schedule ticked⟩

/-! ## Resting frames -/

/-- No batch steps, and every frame is paused once its batch was heard. -/
def Resting : Bool → List Batch → Prop
  | _, [] => True
  | paused, batch :: rest =>
      .step ∉ batch ∧ Nat.repeat not (batch.count .pause) paused = true ∧ Resting true rest

/-- Resting frames show the same picture again and again, and change nothing in the
machine but its keys. -/
theorem course_of_resting (staying : ∀ batch ∈ batches, .quit ∉ batch)
    (resting : Resting session.paused batches) :
    ∃ reached keys picture, reached.machine = { session.machine with keys } ∧
      picture.Shows session.name session.machine true ∧
      Course session batches (List.replicate batches.length picture) reached := by
  induction batches generalizing session with
  | nil =>
      exact ⟨session, session.machine.keys, _, rfl,
        shows_picture { session with paused := true }, .start session⟩
  | cons batch rest induction =>
      obtain ⟨now, later⟩ := List.forall_mem_cons.mp staying
      obtain ⟨step, still, more⟩ := resting
      obtain ⟨reached, keys, picture, same, shows, course⟩ :=
        @induction { session.heard batch with paused := true } later more
      have shown : picture.Shows session.name (session.heard batch).machine true := shows
      exact ⟨reached, keys, picture, same,
        ⟨shown.screen, shown.running, shown.resting, shown.beeping, shown.restingBeeping⟩,
        .frame 0 true _ picture now (.rested step still) rfl shown course⟩

/-! ## Whole runs -/

theorem run_of_course_quit (course : Course session batches pictures reached)
    (quit : .quit ∈ batch) (rest : List Batch) :
    session.run (batches ++ batch :: rest) = ⟨reached.heard batch, pictures, .quit⟩ := by
  rw [run_of_course course, run_of_quit quit, Run.behind, List.append_nil]

theorem run_of_course_breaks (course : Course session batches pictures reached)
    (breaks : reached.Breaks batch fault left) (rest : List Batch) :
    session.run (batches ++ batch :: rest) = ⟨left, pictures, .failed fault⟩ := by
  rw [run_of_course course, run_of_breaks breaks, Run.behind, List.append_nil]

/-- A run whose player leaves comes to that end unless a tick fails before.  Then it has
shown one picture for each batch before the one that leaves, which itself is heard and
no more.  If a tick fails, the run ends with its fault and the pictures of the frames
before.  While frames rest nothing changes in the machine but its keys. -/
theorem run_accounts :
    (∀ (session : Session) (before : List Batch) (leaving : Batch) (rest : List Batch),
      (∀ batch ∈ before, .quit ∉ batch) → .quit ∈ leaving →
        let run := session.run (before ++ leaving :: rest)
        (run.ending = .quit ↔ ¬ session.BreaksWithin before) ∧
        (run.ending = .quit →
          ∃ reached, Course session before run.pictures reached ∧
            run.pictures.length = before.length ∧ run.session = reached.heard leaving) ∧
        ∀ played failing later pictures reached fault left,
          before = played ++ failing :: later →
          Course session played pictures reached → reached.Breaks failing fault left →
            run = ⟨left, pictures, .failed fault⟩ ∧ pictures.length = played.length) ∧
    ∀ (session : Session) (batches : List Batch),
      (∀ batch ∈ batches, .quit ∉ batch) → Resting session.paused batches →
        ∃ reached keys picture, reached.machine = { session.machine with keys } ∧
          picture.Shows session.name session.machine true ∧
          Course session batches (List.replicate batches.length picture) reached := by
  refine ⟨?_, fun _ _ => course_of_resting⟩
  intro session before leaving rest staying quit run
  have failing {played failing later pictures reached fault left}
      (parts : before = played ++ failing :: later)
      (course : Course session played pictures reached)
      (breaks : reached.Breaks failing fault left) : run = ⟨left, pictures, .failed fault⟩ := by
    show session.run (before ++ leaving :: rest) = _
    rw [parts, List.append_assoc]
    exact run_of_course_breaks course breaks (later ++ leaving :: rest)
  have broken (breaks : session.BreaksWithin before) : run.ending ≠ .quit := by
    obtain ⟨played, batch, later, pictures, reached, fault, left, parts, course, breaks⟩ := breaks
    rw [failing parts course breaks]
    exact nofun
  have unbroken (whole : ¬ session.BreaksWithin before) :
      ∃ pictures reached, Course session before pictures reached ∧
        run = ⟨reached.heard leaving, pictures, .quit⟩ := by
    obtain ⟨pictures, reached, course⟩ := (exists_course staying).resolve_right whole
    exact ⟨pictures, reached, course, run_of_course_quit course quit rest⟩
  refine ⟨⟨fun ended breaks => broken breaks ended, fun whole => ?_⟩, fun ended => ?_, ?_⟩
  · obtain ⟨pictures, reached, course, same⟩ := unbroken whole
    rw [same]
  · obtain ⟨pictures, reached, course, same⟩ := unbroken fun breaks => broken breaks ended
    rw [same]
    exact ⟨reached, course, course.length, rfl⟩
  · intro played batch later pictures reached fault left parts course breaks
    exact ⟨failing parts course breaks, course.length⟩

/-- A program whose second word is no instruction.  A session that steps over the first
one and then rests can be left, even if the last batch asks for another step, and fails
if it really takes that step. -/
theorem steps_until_left_or_failed :
    ∃ session next left reached : Session, ∃ picture : Picture,
      (session.run [[.step], [.key 1], [.step, .quit]]).ending = .quit ∧
      (session.run [[.step], [.key 1], [.step, .quit]]).pictures.length = 2 ∧
      (session.run [[.step], [.key 1], [.step, .quit]]).session = reached.heard [.step, .quit] ∧
      Course session [[.step]] [picture] next ∧
      next.Breaks [.step] (.unrecognized 0xFFFF 0x202) left ∧
      session.run [[.step], [.step], [.quit]] =
        ⟨left, [picture], .failed (.unrecognized 0xFFFF 0x202)⟩ ∧
      session.paused = true ∧
      ∃ reached keys picture, reached.machine = { session.machine with keys } ∧
        picture.Shows session.name session.machine true ∧
        Course session [[.key 1], [.pause, .pause]] (List.replicate 2 picture) reached := by
  have played :
      ((launch
        { program := "unknown", startPaused := true, wrap := false, framesPerSecond := 30,
          ticksPerFrame := 1, seed? := some 0, breakpoints := [] } 0
        (.file [0x60, 0x01, 0xFF, 0xFF])).map fun session =>
          let first := Machine.ticks session.machine.config.tickSeconds 1
            (session.heard [.step]).machine
          let next := { session.heard [.step] with machine := first.machine, paused := true }
          let second := Machine.ticks next.machine.config.tickSeconds 1
            (next.heard [.step]).machine
          session.paused && decide (first.fault? = none) &&
            decide (second.fault? = some (.unrecognized 0xFFFF 0x202)) &&
            decide ((session.run [[.step], [.key 1], [.step, .quit]]).ending = .quit)).toOption =
        some true := by
    decide +kernel
  obtain ⟨session, _, played⟩ := exists_ok_of_map played
  simp only [Bool.and_eq_true, decide_eq_true_eq] at played
  obtain ⟨⟨⟨resting, successful⟩, failed⟩, ended⟩ := played
  let next : Session :=
    { session.heard [.step] with
      machine := (Machine.ticks session.machine.config.tickSeconds 1
        (session.heard [.step]).machine).machine
      paused := true }
  have first : Course session [[.step]] _ next :=
    .frame 1 true _ _ (by decide) (.stepped (by decide)) (congrArg (Outcome.mk _) successful)
      (shows_picture next) (.start _)
  have second : next.Breaks [.step] (.unrecognized 0xFFFF 0x202) _ :=
    .frame 1 true _ (by decide) (.stepped (by decide)) (congrArg (Outcome.mk _) failed)
  obtain ⟨_, quits, _⟩ :=
    run_accounts.1 session [[.step], [.key 1]] [.step, .quit] [] (by decide) (by decide)
  obtain ⟨reached, _, length, heard⟩ := quits ended
  obtain ⟨_, _, fails⟩ :=
    run_accounts.1 session [[.step], [.step]] [.quit] [] (by decide) (by decide)
  exact ⟨session, next, _, reached, _, ended, length, heard, first, second,
    (fails [[.step]] [.step] [] _ _ _ _ rfl first second).1, resting,
    run_accounts.2 session [[.key 1], [.pause, .pause]] (by decide)
      ⟨by decide, resting, by decide, rfl, trivial⟩⟩

end Session

end Chip8

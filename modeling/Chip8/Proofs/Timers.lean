import Chip8.Proofs.Countdowns
import Chip8.Proofs.Deeds
import Chip8.Proofs.Failures

/-!
# Timers

Everything that happens to the timers of a machine is listed here: a tick begins and takes
time for both of them, or one of them is assigned a value.  The time of a tick passes once,
at its very start, so whether the machine waits, what it executes and how the tick ends make
no difference to it.  Each timer is the countdown that the list tells of
(`Machine.timer_afterAll`).

Both timers of a machine that was built have one rate and meet the same ticks.  So they
have accumulated the same time whatever they were assigned, and as long as neither is at
zero they fall in the same ticks (`Machine.timers_fall_together`).
-/

namespace Chip8

/-- The timers of a machine. -/
inductive Timer where
  | delay
  | sound
deriving DecidableEq

/-- What happens to the timers of a machine. -/
inductive Timing where
  | began (start : Machine) (dt : Float)
  | assigned (timer : Timer) (value : UInt8)

namespace Timing

/-- What a timing is for one of the timers. -/
def events (timer : Timer) : Timing → List Countdown.Event
  | .began _ dt => [.advanced dt]
  | .assigned other value => if other = timer then [.assigned value] else []

/-- What a list of timings is for one of the timers. -/
def eventsAll (timer : Timer) (timings : List Timing) : List Countdown.Event :=
  timings.flatMap (events timer)

/-- The length of the tick, if one begins. -/
def length? : Timing → Option Float
  | .began _ dt => some dt
  | .assigned .. => none

/-- The lengths of the ticks that begin. -/
def lengths (timings : List Timing) : List Float :=
  timings.filterMap length?

theorem eventsAll_append (timer : Timer) (first second : List Timing) :
    eventsAll timer (first ++ second) = eventsAll timer first ++ eventsAll timer second :=
  List.flatMap_append

theorem lengths_append (first second : List Timing) :
    lengths (first ++ second) = lengths first ++ lengths second :=
  List.filterMap_append

/-- Time passes in the same amounts for either timer. -/
theorem lengths_eventsAll (timer : Timer) (timings : List Timing) :
    Countdown.Event.lengths (eventsAll timer timings) = lengths timings := by
  induction timings with
  | nil => rfl
  | cons timing rest induction =>
      rw [eventsAll, List.flatMap_cons, Countdown.Event.lengths, List.filterMap_append]
      cases timing with
      | began start dt => exact congrArg (dt :: ·) induction
      | assigned other value =>
          rw [events]
          split <;> exact induction

end Timing

/-- Whether a request lets time pass. -/
def Request.takesTime : Request → Bool
  | .tick _ => true
  | .frame => true
  | _ => false

namespace Machine

/-- One of the timers. -/
def timer (machine : Machine) : Timer → Countdown
  | .delay => machine.delay
  | .sound => machine.sound

/-! ## The timings of a request -/

/-- What executing the instruction at the program counter assigns to a timer. -/
def assignments (machine : Machine) : List Timing :=
  match machine.operation? with
  | some (.setDelay x) => [.assigned .delay (machine.register x)]
  | some (.setSound x) => [.assigned .sound (machine.register x)]
  | _ => []

end Machine

/-- What a deed assigns to a timer. -/
def Deed.assignments : Deed → List Timing
  | .woke .. => []
  | .executed start => start.assignments

namespace Machine

variable {machine after awake : Machine}

/-- The timings of a tick. -/
def tickTimings (machine : Machine) (dt : Float) : List Timing :=
  .began machine dt :: (machine.tickDeeds dt).flatMap Deed.assignments

/-- The timings of up to a number of ticks. -/
def ticksTimings (dt : Float) : Nat → Machine → List Timing
  | 0, _ => []
  | count + 1, machine =>
      machine.tickTimings dt ++
        match machine.tick dt with
        | ⟨after, none⟩ => ticksTimings dt count after
        | ⟨_, some _⟩ => []

/-- The timings of a request. -/
def timings (machine : Machine) : Request → List Timing
  | .setDelay value => [.assigned .delay value]
  | .setSound value => [.assigned .sound value]
  | .execute => machine.assignments
  | .tick dt => machine.tickTimings dt
  | .frame => ticksTimings machine.config.tickSeconds machine.config.ticksPerFrame machine
  | _ => []

/-- The timings of one request after another. -/
def timingsAll (machine : Machine) : List Request → List Timing
  | [] => []
  | request :: rest => machine.timings request ++ (machine.answer request).machine.timingsAll rest

theorem lengths_assignments (machine : Machine) : Timing.lengths machine.assignments = [] := by
  rw [assignments]
  split <;> rfl

theorem lengths_flatMap_assignments (deeds : List Deed) :
    Timing.lengths (deeds.flatMap Deed.assignments) = [] := by
  induction deeds with
  | nil => rfl
  | cons deed rest induction =>
      rw [List.flatMap_cons, Timing.lengths_append, induction, List.append_nil]
      cases deed with
      | woke asleep awake => rfl
      | executed start => exact start.lengths_assignments

/-- No time passes for the timers but in ticks and frames. -/
theorem lengths_timings (machine : Machine) {request : Request}
    (instant : request.takesTime = false) : Timing.lengths (machine.timings request) = [] := by
  cases request with
  | execute => exact machine.lengths_assignments
  | tick dt | frame => cases instant
  | _ => rfl

theorem lengths_tickTimings (machine : Machine) (dt : Float) :
    Timing.lengths (machine.tickTimings dt) = [dt] :=
  congrArg (dt :: ·) (lengths_flatMap_assignments _)

/-- Each of the ticks that begin takes the same time, and only a fault leaves some out. -/
theorem lengths_ticksTimings (dt : Float) (count : Nat) (machine : Machine) :
    ∃ begun, Timing.lengths (ticksTimings dt count machine) = List.replicate begun dt ∧
      begun ≤ count ∧ ((ticks dt count machine).fault? = none → begun = count) := by
  induction count generalizing machine with
  | zero => exact ⟨0, rfl, Nat.le_refl 0, fun _ => rfl⟩
  | succ count induction =>
      rw [ticks, ticksTimings, Timing.lengths_append, lengths_tickTimings]
      rcases machine.tick dt with ⟨next, _ | fault⟩
      · obtain ⟨begun, lengths, bounded, all⟩ := induction next
        refine ⟨begun + 1, ?_, Nat.succ_le_succ bounded, fun ended => congrArg (· + 1) (all ended)⟩
        exact congrArg (dt :: ·) lengths
      · exact ⟨1, rfl, Nat.succ_le_succ (Nat.zero_le count), fun impossible => by cases impossible⟩

/-! ## Timers follow their timings -/

theorem timer_of_row {word : UInt16} (row : Row machine word after)
    (spared : ∀ x, word.toNat ≠ (Operation.setDelay x).code ∧
      word.toNat ≠ (Operation.setSound x).code) (timer : Timer) :
    after.timer timer = machine.timer timer := by
  cases row with
  | setDelay x number => exact absurd number (spared x).1
  | setSound x number => exact absurd number (spared x).2
  | _ => cases timer <;> rfl

theorem timer_execute_assigned {operation : Operation} (asked : machine.operation? = some operation)
    {assigned : Machine} (performed : machine.perform operation = .ok assigned) (timer : Timer) :
    machine.execute.machine.timer timer = assigned.timer timer := by
  obtain ⟨word, held, number⟩ := operation?_eq_some_iff.mp asked
  rw [execute, step_eq_perform held number, performed]
  cases timer <;> rfl

/-- An execution assigns what is listed and does nothing else to a timer. -/
theorem timer_execute (machine : Machine) (timer : Timer) :
    machine.execute.machine.timer timer =
      (machine.timer timer).after (Timing.eventsAll timer machine.assignments) := by
  rw [assignments]
  split
  · next x asked =>
      rw [timer_execute_assigned asked rfl]
      cases timer <;> rfl
  · next x asked =>
      rw [timer_execute_assigned asked rfl]
      cases timer <;> rfl
  · next other silent =>
      rw [execute]
      cases stepped : machine.step with
      | error fault => cases timer <;> rfl
      | ok after =>
          obtain ⟨word, held, row⟩ := step_eq_ok_iff.mp stepped
          have kept := timer_of_row row (fun x => ⟨fun number => ?_, fun number => ?_⟩) timer
          · cases timer <;> exact kept
          · exact other x (operation?_eq_some_iff.mpr ⟨word, held, number⟩)
          · exact silent x (operation?_eq_some_iff.mpr ⟨word, held, number⟩)

theorem timer_awoken (awoken : machine.awaken? = some awake) (timer : Timer) :
    awake.timer timer = machine.timer timer := by
  rcases awoken_eq awoken with rfl | ⟨registers, pc, rfl⟩
  · rfl
  · cases timer <;> rfl

theorem flatMap_waking (machine awake : Machine) :
    (machine.waking awake).flatMap Deed.assignments = [] := by
  rw [waking]
  split <;> rfl

theorem timer_burst (count : Nat) (machine : Machine) (timer : Timer) :
    (burst count machine).machine.timer timer =
      (machine.timer timer).after
        (Timing.eventsAll timer ((burstDeeds count machine).flatMap Deed.assignments)) := by
  induction count generalizing machine with
  | zero => rfl
  | succ count induction =>
      rw [burst, burstDeeds]
      cases awoken : machine.awaken? with
      | none => rfl
      | some awake =>
          have executed := awake.timer_execute timer
          rw [timer_awoken awoken] at executed
          simp only [List.flatMap_append, flatMap_waking, List.nil_append, List.flatMap_cons,
            Deed.assignments, Timing.eventsAll_append, Countdown.after_append, ← executed]
          rcases awake.execute with ⟨next, _ | fault⟩
          · exact induction next
          · rfl

theorem timer_tick (machine : Machine) (dt : Float) (timer : Timer) :
    (machine.tick dt).machine.timer timer =
      (machine.timer timer).after (Timing.eventsAll timer (machine.tickTimings dt)) := by
  have advanced : (machine.advanceTimers dt).timer timer = (machine.timer timer).advance dt := by
    cases timer <;> rfl
  rw [tick, timer_burst, advanced]
  rfl

theorem timer_ticks (dt : Float) (count : Nat) (machine : Machine) (timer : Timer) :
    (ticks dt count machine).machine.timer timer =
      (machine.timer timer).after (Timing.eventsAll timer (ticksTimings dt count machine)) := by
  induction count generalizing machine with
  | zero => rfl
  | succ count induction =>
      have ticked := machine.timer_tick dt timer
      rw [ticks, ticksTimings, Timing.eventsAll_append, Countdown.after_append, ← ticked]
      rcases machine.tick dt with ⟨next, _ | fault⟩
      · exact induction next
      · rfl

theorem Touched.timer {kind : Request.Kind} (touched : machine.Touched kind after)
    (spared : kind ≠ .timing) (timer : Timer) : after.timer timer = machine.timer timer := by
  cases touched with
  | timed delay sound => exact absurd rfl spared
  | _ => cases timer <;> rfl

/-- A request leads each timer through the timings that are listed, and through no others. -/
theorem timer_answer (machine : Machine) (request : Request) (timer : Timer) :
    (machine.answer request).machine.timer timer =
      (machine.timer timer).after (Timing.eventsAll timer (machine.timings request)) := by
  cases request with
  | setDelay value | setSound value => cases timer <;> rfl
  | execute => exact machine.timer_execute timer
  | tick dt => exact machine.timer_tick dt timer
  | frame => exact timer_ticks _ _ machine timer
  | _ => exact (touched_answer rfl).timer (by nofun) timer

theorem timer_afterAll (machine : Machine) (requests : List Request) (timer : Timer) :
    (machine.afterAll requests).timer timer =
      (machine.timer timer).after (Timing.eventsAll timer (machine.timingsAll requests)) := by
  induction requests generalizing machine with
  | nil => rfl
  | cons request rest induction =>
      rw [afterAll_cons, induction, timer_answer, timingsAll, Timing.eventsAll_append,
        Countdown.after_append]

/-! ## Timers in agreement -/

/-- The timers have one rate and have accumulated the same time. -/
structure TimersAgree (machine : Machine) : Prop where
  threshold : machine.delay.threshold = machine.sound.threshold
  elapsed : machine.delay.elapsed = machine.sound.elapsed

/-- Unless a timer is at zero, letting time pass lowers both by one or leaves both. -/
def FallTogether (machine : Machine) (dt : Float) : Prop :=
  machine.delay.value ≠ 0 → machine.sound.value ≠ 0 →
    ((machine.advanceTimers dt).delay.value.toNat + 1 = machine.delay.value.toNat ∧
      (machine.advanceTimers dt).sound.value.toNat + 1 = machine.sound.value.toNat) ∨
    ((machine.advanceTimers dt).delay.value = machine.delay.value ∧
      (machine.advanceTimers dt).sound.value = machine.sound.value)

theorem TimersAgree.fallTogether (agree : machine.TimersAgree) (dt : Float) :
    machine.FallTogether dt := by
  intro delayed sounding
  have delay := machine.delay.value_advance dt
  have sound := machine.sound.value_advance dt
  rw [agree.threshold, agree.elapsed] at delay
  rw [Ne, ← UInt8.toNat_inj, UInt8.toNat_zero] at delayed sounding
  rw [← UInt8.toNat_inj, ← UInt8.toNat_inj]
  show (machine.delay.advance dt).value.toNat + 1 = _ ∧
      (machine.sound.advance dt).value.toNat + 1 = _ ∨
    (machine.delay.advance dt).value.toNat = _ ∧ (machine.sound.advance dt).value.toNat = _
  cases crossed : Countdown.crosses machine.sound.threshold machine.sound.elapsed dt with
  | true =>
      rw [crossed, Bool.toNat_true] at delay sound
      omega
  | false =>
      rw [crossed, Bool.toNat_false] at delay sound
      omega

/-- Timers that agree still agree after any timings, because time passes for both alike. -/
theorem TimersAgree.of_timings (agree : machine.TimersAgree) {timings : List Timing}
    (timed : ∀ timer, after.timer timer =
      (machine.timer timer).after (Timing.eventsAll timer timings)) : after.TimersAgree := by
  have delay : after.delay = machine.delay.after (Timing.eventsAll .delay timings) := timed .delay
  have sound : after.sound = machine.sound.after (Timing.eventsAll .sound timings) := timed .sound
  constructor
  · rw [delay, sound, Countdown.threshold_after, Countdown.threshold_after, agree.threshold]
  · rw [delay, sound, Countdown.elapsed_after, Countdown.elapsed_after,
      Timing.lengths_eventsAll, Timing.lengths_eventsAll, agree.threshold, agree.elapsed]

/-! ## Where ticks begin -/

variable {start : Machine} {dt : Float}

theorem not_began_mem {timings : List Timing} (instant : Timing.lengths timings = []) :
    .began start dt ∉ timings := by
  intro began
  have length : dt ∈ Timing.lengths timings := List.mem_filterMap.mpr ⟨_, began, rfl⟩
  rw [instant] at length
  cases length

theorem eq_of_began_mem_tickTimings {length : Float}
    (began : .began start dt ∈ machine.tickTimings length) : start = machine := by
  rcases List.mem_cons.mp began with first | later
  · injection first
  · exact absurd later (not_began_mem (lengths_flatMap_assignments _))

namespace TimersAgree

theorem of_began_mem_ticksTimings (agree : machine.TimersAgree) {length : Float} {count : Nat}
    (began : .began start dt ∈ ticksTimings length count machine) : start.TimersAgree := by
  induction count generalizing machine with
  | zero => cases began
  | succ count induction =>
      have later := agree.of_timings (machine.timer_tick length)
      rw [ticksTimings] at began
      rcases List.mem_append.mp began with first | began
      · rw [eq_of_began_mem_tickTimings first]
        exact agree
      · rcases ended : machine.tick length with ⟨next, _ | fault⟩
        · rw [ended] at began later
          exact induction later began
        · rw [ended] at began
          cases began

theorem of_began_mem_timings (agree : machine.TimersAgree) {request : Request}
    (began : .began start dt ∈ machine.timings request) : start.TimersAgree := by
  cases takesTime : request.takesTime with
  | false => exact absurd began (not_began_mem (machine.lengths_timings takesTime))
  | true =>
      cases request with
      | tick length =>
          rw [eq_of_began_mem_tickTimings began]
          exact agree
      | frame => exact agree.of_began_mem_ticksTimings began
      | _ => cases takesTime

/-- Timers that agree before a history agree wherever one of its ticks begins. -/
theorem of_began_mem_timingsAll (agree : machine.TimersAgree) {requests : List Request}
    (began : .began start dt ∈ machine.timingsAll requests) : start.TimersAgree := by
  induction requests generalizing machine with
  | nil => cases began
  | cons request rest induction =>
      rcases List.mem_append.mp began with first | later
      · exact agree.of_began_mem_timings first
      · exact induction (agree.of_timings (machine.timer_answer request)) later

end TimersAgree

/-! ## Machines that were built -/

theorem timer_build {config : Config} {source : RandomSource}
    (built : build config source = .ok machine) (timer : Timer) : machine.timer timer = Countdown.ofRate Countdown.defaultRate := by
  obtain ⟨_, _, _, rfl⟩ := exists_unloaded_of_build built
  cases timer <;> rfl

theorem timersAgree_build {config : Config} {source : RandomSource}
    (built : build config source = .ok machine) : machine.TimersAgree := by
  have delay : machine.delay = Countdown.ofRate Countdown.defaultRate := timer_build built .delay
  have sound : machine.sound = Countdown.ofRate Countdown.defaultRate := timer_build built .sound
  constructor
  · rw [delay, sound]
  · rw [delay, sound]

/-- What a request does to the timers.  It leads them through its timings.  A tick advances
both once, before it does anything else, and a frame does for each of its ticks.  No other
request takes time. -/
structure KeepsTime (machine : Machine) (request : Request) : Prop where
  follows : ∀ timer, (machine.answer request).machine.timer timer =
    (machine.timer timer).after (Timing.eventsAll timer (machine.timings request))
  elapsed : ∀ timer, ((machine.answer request).machine.timer timer).elapsed =
    Countdown.progress (machine.timer timer).threshold (machine.timer timer).elapsed
      (Timing.lengths (machine.timings request))
  tick : ∀ dt, request = .tick dt → ∃ assigned,
    machine.timings request = .began machine dt :: assigned ∧ Timing.lengths assigned = []
  frame : request = .frame → ∃ begun,
    Timing.lengths (machine.timings request) = List.replicate begun machine.config.tickSeconds ∧
      begun ≤ machine.config.ticksPerFrame ∧
      ((machine.answer request).fault? = none → begun = machine.config.ticksPerFrame)
  instant : request.takesTime = false → Timing.lengths (machine.timings request) = []

theorem keepsTime (machine : Machine) (request : Request) : machine.KeepsTime request where
  follows := machine.timer_answer request
  elapsed timer := by
    rw [timer_answer, Countdown.elapsed_after, Timing.lengths_eventsAll]
  tick dt asked := by
    rw [asked]
    exact ⟨_, rfl, lengths_flatMap_assignments _⟩
  frame asked := by
    rw [asked]
    exact lengths_ticksTimings _ _ machine
  instant := machine.lengths_timings

/-- A countdown accumulates time by its rate and the lengths of its advances alone, and from
an assignment on its value has fallen once for every crossing of the threshold.  A tick of
any machine advances both timers once, however it goes on, and apart from ticks no time
passes for them.  So both timers of a machine that was built have accumulated the same time,
at the end of any history and wherever one of its ticks begins, and unless one is at zero
they fall together. -/
theorem timers_fall_together :
    (∀ (rate : Float) (events : List Countdown.Event),
      ((Countdown.ofRate rate).after events).Counts rate events) ∧
    (∀ (machine : Machine) (request : Request), machine.KeepsTime request) ∧
    ∀ (config : Config) (source : RandomSource) (booted : Machine),
      build config source = .ok booted → ∀ requests : List Request,
        (∀ timer, ((booted.afterAll requests).timer timer).Counts Countdown.defaultRate
          (Timing.eventsAll timer (booted.timingsAll requests))) ∧
        (booted.afterAll requests).TimersAgree ∧
        (∀ dt, (booted.afterAll requests).FallTogether dt) ∧
        ∀ start dt, .began start dt ∈ booted.timingsAll requests →
          start.TimersAgree ∧ start.FallTogether dt := by
  refine ⟨Countdown.counts_after, keepsTime, ?_⟩
  intro config source booted built requests
  have initial := timersAgree_build built
  have last := initial.of_timings (booted.timer_afterAll requests)
  refine ⟨fun timer => ?_, last, last.fallTogether, fun start dt began => ?_⟩
  · rw [timer_afterAll, timer_build built]
    exact Countdown.counts_after _ _
  · have agree := initial.of_began_mem_timingsAll began
    exact ⟨agree, agree.fallTogether dt⟩

/-- Time passes for both timers in a tick that waits for a key and in one that fails.  The
two together reach the threshold, and both values fall. -/
theorem idle_and_failed_ticks_take_time :
    ∃ booted : Machine, ∃ requests : List Request,
      requests = [.loadProgram ⟨[0xF0, 0x0A, 0xFF, 0xFF], none⟩, .execute, .setDelay 2,
        .setSound 5, .tick 0.0125, .press 3, .tick 0.0125] ∧
      boot { width := 8, height := 1, memorySize := 0x60, start := 0x50 } 0 = .ok booted ∧
      (booted.afterAll (requests.take 5)).waiting = some 0 ∧
      booted.faults requests = [.unrecognized 0xFFFF 0x52] ∧
      (booted.afterAll requests).delay.value = 1 ∧
      (booted.afterAll requests).sound.value = 4 ∧
      (booted.afterAll requests).TimersAgree ∧ (booted.afterAll requests).FallTogether 0.0125 := by
  let requests : List Request :=
    [.loadProgram ⟨[0xF0, 0x0A, 0xFF, 0xFF], none⟩, .execute, .setDelay 2,
      .setSound 5, .tick 0.0125, .press 3, .tick 0.0125]
  have made :
      ((boot { width := 8, height := 1, memorySize := 0x60, start := 0x50 } 0).map fun booted =>
        decide ((booted.afterAll (requests.take 5)).waiting = some 0) &&
          decide (booted.faults requests = [.unrecognized 0xFFFF 0x52]) &&
          decide ((booted.afterAll requests).delay.value = 1) &&
          decide ((booted.afterAll requests).sound.value = 4)).toOption = some true := by
    decide +kernel
  obtain ⟨booted, built, made⟩ := exists_ok_of_map made
  simp only [Bool.and_eq_true, decide_eq_true_eq] at made
  obtain ⟨⟨⟨waits, fails⟩, delay⟩, sound⟩ := made
  obtain ⟨_, agree, together, _⟩ := timers_fall_together.2.2 _ _ booted built requests
  exact ⟨booted, requests, rfl, built, waits, fails, delay, sound, agree, together 0.0125⟩

end Machine

end Chip8

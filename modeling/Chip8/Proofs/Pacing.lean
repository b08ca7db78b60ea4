import Chip8.Console.Keystream
import Chip8.Proofs.Sources

/-!
# Pacing

How many instructions belong to a tick decides how often the timers advance, and
nothing else.  A tick of many instructions is compared with as many ticks of one
instruction each, and a frame with as many ticks as it has instructions.  If no
instruction reads a timer, both end with the same fault, if any, and the machines
differ in their timers at most.

The two loops are not cut alike.  The burst of a tick ends at a wait that goes on,
while the single ticks go on and let time pass on a machine that sleeps.  Where both
execute an instruction, they look after the wait before it in the same way.
-/

namespace Chip8

namespace Machine

/-! ## Ticks of given lengths -/

/-- One tick of each of the given lengths, up to the first fault. -/
def ticksOf : List Float → Machine → Outcome
  | [], machine => ⟨machine, none⟩
  | dt :: rest, machine => (machine.tick dt).resume (ticksOf rest)

theorem ticksOf_append (earlier later : List Float) (machine : Machine) :
    ticksOf (earlier ++ later) machine = (ticksOf earlier machine).resume (ticksOf later) := by
  induction earlier generalizing machine with
  | nil => rfl
  | cons dt rest induction =>
      rw [List.cons_append, ticksOf, ticksOf]
      rcases machine.tick dt with ⟨after, _ | fault⟩
      · exact induction after
      · rfl

theorem sameFixtures_ticksOf (lengths : List Float) (machine : Machine) :
    SameFixtures machine (ticksOf lengths machine).machine := by
  induction lengths generalizing machine with
  | nil => exact .refl machine
  | cons dt rest induction =>
      have ticked := machine.sameFixtures_tick dt
      rw [ticksOf]
      rcases ended : machine.tick dt with ⟨after, _ | fault⟩
      · rw [ended] at ticked
        exact ticked.trans (induction after)
      · rw [ended] at ticked
        exact ticked

/-- A tick of one instruction executes it, unless the machine sleeps on. -/
theorem tick_of_awoken {machine awake : Machine} {dt : Float}
    (pace : machine.config.instructionsPerTick = 1)
    (awoken : (machine.advanceTimers dt).awaken? = some awake) :
    machine.tick dt = awake.execute := by
  rw [tick, pace, burst_of_awoken awoken]
  rcases awake.execute with ⟨after, _ | fault⟩ <;> rfl

theorem tick_of_asleep {machine : Machine} {dt : Float}
    (asleep : (machine.advanceTimers dt).awaken? = none) :
    machine.tick dt = ⟨machine.advanceTimers dt, none⟩ := by
  rw [tick]
  cases machine.config.instructionsPerTick with
  | zero => rfl
  | succ count => rw [burst, asleep]

/-! ## A burst against single ticks -/

variable {batched single : Machine} {dt : Float} {lengths : List Float}

namespace InStep

theorem advance_left (inStep : InStep .timers batched single) (dt : Float) :
    InStep .timers (batched.advanceTimers dt) single :=
  inStep.retime _ _ single.delay single.sound

theorem advance_right (inStep : InStep .timers batched single) (dt : Float) :
    InStep .timers batched (single.advanceTimers dt) :=
  inStep.retime batched.delay batched.sound _ _

/-- Ticks do nothing but let time pass while a machine sleeps. -/
theorem ticksOf_asleep (inStep : InStep .timers batched single)
    (asleep : batched.awaken? = none) :
    InStepOutcomes .timers ⟨batched, none⟩ (ticksOf lengths single) := by
  induction lengths generalizing single with
  | nil => exact ⟨rfl, inStep⟩
  | cons dt rest induction =>
      have later := inStep.advance_right dt
      rcases later.awaken with ⟨_, asleep'⟩ | ⟨awake, _, awoken, _, _⟩
      · rw [ticksOf, tick_of_asleep asleep']
        exact induction later
      · cases asleep.symm.trans awoken

/-- A burst has the outcome of as many ticks of one instruction each. -/
theorem burst_ticksOf (inStep : InStep .timers batched single)
    (pace : single.config.instructionsPerTick = 1)
    (unread : Source.timers.Unread (burstDeeds lengths.length batched)) :
    InStepOutcomes .timers (Machine.burst lengths.length batched) (ticksOf lengths single) := by
  induction lengths generalizing batched single with
  | nil => exact ⟨rfl, inStep⟩
  | cons dt rest induction =>
      have later := inStep.advance_right dt
      rw [List.length_cons] at unread ⊢
      rcases later.awaken with ⟨asleep, asleep'⟩ | ⟨awake, awake', awoken, awoken', started⟩
      · -- the burst ends here, and the single ticks go on without an instruction
        rw [Machine.burst, asleep]
        exact inStep.ticksOf_asleep asleep
      · obtain ⟨now, further⟩ := unread.burst awoken
        have tick : single.tick dt = awake'.execute := tick_of_awoken pace awoken'
        rw [burst_of_awoken awoken, ticksOf, tick]
        refine (started.execute now).resume fun next next' executed executed' after => ?_
        have config := config_of_tick (tick.trans executed')
        exact induction after (by rw [config, pace]) (further next executed)

theorem tick_ticksOf (inStep : InStep .timers batched single)
    (pace : single.config.instructionsPerTick = 1)
    (length : lengths.length = batched.config.instructionsPerTick)
    (unread : Source.timers.Unread (batched.tickDeeds dt)) :
    InStepOutcomes .timers (batched.tick dt) (ticksOf lengths single) := by
  rw [tickDeeds, ← length] at unread
  rw [Machine.tick, ← length]
  exact (inStep.advance_left dt).burst_ticksOf pace unread

/-- Ticks of many instructions have the outcome of as many ticks of one instruction as
they have instructions in all. -/
theorem ticks_ticksOf (inStep : InStep .timers batched single) {count : Nat}
    (pace : single.config.instructionsPerTick = 1)
    (length : lengths.length = count * batched.config.instructionsPerTick)
    (unread : Source.timers.Unread (ticksDeeds dt count batched)) :
    InStepOutcomes .timers (Machine.ticks dt count batched) (ticksOf lengths single) := by
  induction count generalizing batched single lengths with
  | zero =>
      rw [Nat.zero_mul] at length
      rw [List.length_eq_zero_iff.mp length]
      exact ⟨rfl, inStep⟩
  | succ count induction =>
      -- the first single ticks make up the first tick
      rw [Nat.succ_mul] at length
      let earlier := lengths.take batched.config.instructionsPerTick
      let later := lengths.drop batched.config.instructionsPerTick
      have lengthEarlier : earlier.length = batched.config.instructionsPerTick := by
        rw [List.length_take]
        omega
      have lengthLater : later.length = count * batched.config.instructionsPerTick := by
        rw [List.length_drop]
        omega
      obtain ⟨now, further⟩ := unread.ticks
      rw [← lengths.take_append_drop batched.config.instructionsPerTick, ticksOf_append, ticks_succ]
      refine (inStep.tick_ticksOf pace lengthEarlier now).resume
        fun next next' ticked ticked' after => ?_
      have config := config_of_tick ticked
      have config' := (sameFixtures_ticksOf earlier single).config
      rw [ticked'] at config'
      exact induction after (by rw [config', pace]) (by rw [config, lengthLater])
        (further next ticked)

end InStep

/-- Machines that differ in their timers and configurations at most, the second one with
one instruction to a tick: a tick or a frame of the first has the outcome of as many
ticks of the second as it has instructions, whatever their lengths, if no instruction
reads a timer. -/
theorem batching_keeps_outcome (batched single : Machine)
    (alike : AlikeBut .timers batched single) (pace : single.config.instructionsPerTick = 1) :
    (∀ dt lengths, lengths.length = batched.config.instructionsPerTick →
      Source.timers.Unread (batched.deeds (.tick dt)) →
        (ticksOf lengths single).fault? = (batched.tick dt).fault? ∧
          AlikeBut .timers (batched.tick dt).machine (ticksOf lengths single).machine) ∧
    (∀ lengths,
      lengths.length = batched.config.ticksPerFrame * batched.config.instructionsPerTick →
      Source.timers.Unread (batched.deeds .frame) →
        (ticksOf lengths single).fault? = batched.frame.fault? ∧
          AlikeBut .timers batched.frame.machine (ticksOf lengths single).machine) := by
  have inStep : InStep .timers batched single := ⟨alike, fun impossible => by cases impossible⟩
  refine ⟨fun dt lengths length unread => ?_, fun lengths length unread => ?_⟩
  · have same := inStep.tick_ticksOf pace length unread
    exact ⟨same.fault?, same.machine.toAlikeBut⟩
  · have same := inStep.ticks_ticksOf pace length unread
    exact ⟨same.fault?, same.machine.toAlikeBut⟩

/-- A wait starts at the end of a tick and ends in the next one, where an unknown word
follows.  Single ticks of other lengths wait and fail at the same instructions. -/
theorem wait_across_ticks_batched :
    ∃ booted batched single : Machine, ∃ config : Config,
      boot config 0 = .ok booted ∧ config.instructionsPerTick = 2 ∧ config.ticksPerFrame = 2 ∧
      batched = booted.afterAll
        [.loadProgram ⟨[0x61, 0x01, 0xF3, 0x0A, 0xFF, 0xFF], none⟩, .press 5] ∧
      single = { batched with config := { config with instructionsPerTick := 1 } } ∧
      (batched.tick 0.5).machine.waiting = some 3 ∧
      AlikeBut .timers (batched.tick 0.5).machine (ticksOf [0.25, 1.5] single).machine ∧
      batched.frame.fault? = some (.unrecognized 0xFFFF 0x204) ∧
      (ticksOf [0.25, 1.5, 0.0, 0.125] single).fault? = some (.unrecognized 0xFFFF 0x204) := by
  let config : Config := { Config.standard with instructionsPerTick := 2, ticksPerFrame := 2 }
  let requests : List Request :=
    [.loadProgram ⟨[0x61, 0x01, 0xF3, 0x0A, 0xFF, 0xFF], none⟩, .press 5]
  have made :
      ((boot config 0).map fun booted =>
        let batched := booted.afterAll requests
        decide ((batched.tick 0.5).machine.waiting = some 3) &&
          decide (batched.frame.fault? = some (.unrecognized 0xFFFF 0x204)) &&
          decide (Source.timers.Unread (batched.deeds (.tick 0.5))) &&
          decide (Source.timers.Unread (batched.deeds .frame)) &&
          decide (batched.config = config)).toOption = some true := by
    decide +kernel
  obtain ⟨booted, built, made⟩ := exists_ok_of_map made
  simp only [Bool.and_eq_true, decide_eq_true_eq] at made
  obtain ⟨⟨⟨⟨waits, fails⟩, unreadTick⟩, unreadFrame⟩, kept⟩ := made
  let batched := booted.afterAll requests
  let single : Machine := { batched with config := { config with instructionsPerTick := 1 } }
  have alike : AlikeBut .timers batched single := by
    constructor <;> first | rfl | exact fun _ => rfl
  obtain ⟨inTick, inFrame⟩ := batching_keeps_outcome batched single alike rfl
  have pace : batched.config.instructionsPerTick = 2 := congrArg Config.instructionsPerTick kept
  have length : batched.config.ticksPerFrame = 2 := congrArg Config.ticksPerFrame kept
  have tick := inTick 0.5 [0.25, 1.5] pace.symm unreadTick
  have frame := inFrame [0.25, 1.5, 0.0, 0.125] (by rw [pace, length]; rfl) unreadFrame
  exact ⟨booted, batched, single, config, built, rfl, rfl, rfl, rfl, waits, tick.2, fails,
    frame.1.trans fails⟩

end Machine

end Chip8

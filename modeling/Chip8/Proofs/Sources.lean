import Chip8.Proofs.Deeds

/-!
# Sources

A program is fed from three sources: the keys, the timers and the random bytes.  Only
five operations read one of them.  Two machines that differ in one source are in step
as long as no instruction reads it: every operation does the same to both, fails on
both with the same fault, and leaves them differing in that source at most.

An operation that sets a timer or draws a byte writes its source, and what it writes is
no concern of the other machine.  A wait reads the keys whenever it is looked after, so
two machines whose keys differ are in step only while they do not wait.

The configuration feeds no instruction at all.  It says how many instructions a tick
has and how many ticks a frame has, so ticks and frames are in step if it is the same.
-/

namespace Chip8

/-- What feeds a program from outside. -/
inductive Source where
  | keys
  | timers
  | generator
deriving DecidableEq

/-- The source that an operation reads. -/
def Operation.source? : Operation → Option Source
  | .skipIfKey _ => some .keys
  | .skipUnlessKey _ => some .keys
  | .awaitKey _ => some .keys
  | .readDelay _ => some .timers
  | .random _ _ => some .generator
  | _ => none

/-- The source that the instruction at the program counter reads. -/
def Machine.reads? (machine : Machine) : Option Source :=
  machine.operation?.bind Operation.source?

/-- The source that the instruction of a deed reads. -/
def Deed.reads? : Deed → Option Source
  | .woke _ _ => none
  | .executed start => start.reads?

/-- No instruction among the deeds reads the source. -/
def Source.Unread (source : Source) (deeds : List Deed) : Prop :=
  ∀ deed ∈ deeds, deed.reads? ≠ some source

instance (source : Source) (deeds : List Deed) : Decidable (source.Unread deeds) :=
  inferInstanceAs (Decidable (∀ deed ∈ deeds, deed.reads? ≠ some source))

namespace Source.Unread

variable {source : Source} {machine awake after : Machine} {count : Nat} {dt : Float}

theorem append {earlier later : List Deed} (unread : source.Unread (earlier ++ later)) :
    source.Unread earlier ∧ source.Unread later :=
  List.forall_mem_append.mp unread

theorem burst (unread : source.Unread (Machine.burstDeeds (count + 1) machine))
    (awoken : machine.awaken? = some awake) :
    awake.reads? ≠ some source ∧
      ∀ after, awake.execute = ⟨after, none⟩ → source.Unread (Machine.burstDeeds count after) := by
  rw [Machine.burstDeeds, awoken] at unread
  obtain ⟨_, executing⟩ := unread.append
  obtain ⟨now, later⟩ := List.forall_mem_cons.mp executing
  refine ⟨now, fun after executed => ?_⟩
  rwa [executed] at later

theorem ticks (unread : source.Unread (Machine.ticksDeeds dt (count + 1) machine)) :
    source.Unread (machine.tickDeeds dt) ∧
      ∀ after, machine.tick dt = ⟨after, none⟩ →
        source.Unread (Machine.ticksDeeds dt count after) := by
  rw [Machine.ticksDeeds] at unread
  obtain ⟨first, others⟩ := unread.append
  refine ⟨first, fun after ticked => ?_⟩
  rwa [ticked] at others

end Source.Unread

/-- Go on with something else unless there was a fault. -/
def Outcome.resume (outcome : Outcome) (continuation : Machine → Outcome) : Outcome :=
  match outcome with
  | ⟨after, none⟩ => continuation after
  | ⟨after, some fault⟩ => ⟨after, some fault⟩

namespace Machine

theorem burst_of_awoken {machine awake : Machine} {count : Nat}
    (awoken : machine.awaken? = some awake) :
    burst (count + 1) machine = awake.execute.resume (burst count) := by
  rw [burst, awoken]
  rfl

theorem ticks_succ (dt : Float) (count : Nat) (machine : Machine) :
    ticks dt (count + 1) machine = (machine.tick dt).resume (ticks dt count) :=
  rfl

theorem config_of_tick {machine after : Machine} {dt : Float}
    (ticked : machine.tick dt = ⟨after, none⟩) : after.config = machine.config := by
  have fixtures := (machine.sameFixtures_tick dt).config
  rwa [ticked] at fixtures

/-! ## Machines in step -/

/-- The machines differ in the source and in their configurations at most. -/
structure AlikeBut (source : Source) (first second : Machine) : Prop where
  memory : second.memory = first.memory
  screen : second.screen = first.screen
  pc : second.pc = first.pc
  index : second.index = first.index
  registers : second.registers = first.registers
  calls : second.calls = first.calls
  waiting : second.waiting = first.waiting
  font : second.font = first.font
  breakpoints : second.breakpoints = first.breakpoints
  unhandled : second.unhandled = first.unhandled
  keys : source ≠ .keys → second.keys = first.keys
  delay : source ≠ .timers → second.delay = first.delay
  sound : source ≠ .timers → second.sound = first.sound
  generator : source ≠ .generator → second.generator = first.generator

/-- Alike machines that do not wait for the source in which they differ. -/
structure InStep (source : Source) (first second : Machine) : Prop
    extends AlikeBut source first second where
  awake : source = .keys → first.waiting = none

/-- Two attempts give the same fault, or machines in step. -/
inductive InStepResults (source : Source) :
    Except Fault Machine → Except Fault Machine → Prop where
  | ok {first second : Machine} (inStep : InStep source first second) :
      InStepResults source (.ok first) (.ok second)
  | error (fault : Fault) : InStepResults source (.error fault) (.error fault)

/-- Two outcomes have the same fault, if any, and leave machines in step. -/
structure InStepOutcomes (source : Source) (left right : Outcome) : Prop where
  fault? : right.fault? = left.fault?
  machine : InStep source left.machine right.machine

variable {source : Source} {first second : Machine} {left right : Except Fault Machine}

theorem InStepResults.next (same : InStepResults source left right) :
    InStepResults source (do return (← left).next) (do return (← right).next) := by
  cases same with
  | ok inStep => exact .ok { inStep with pc := congrArg (· + 2) inStep.pc }
  | error fault => exact .error fault

theorem InStepResults.outcomes (same : InStepResults source left right)
    (inStep : InStep source first second) :
    InStepOutcomes source (.ofResult first left) (.ofResult second right) := by
  cases same with
  | ok after => exact ⟨rfl, after⟩
  | error fault => exact ⟨rfl, inStep⟩

theorem InStepOutcomes.resume {left right : Outcome}
    {continuation continuation' : Machine → Outcome}
    (same : InStepOutcomes source left right)
    (onward : ∀ next next', left = ⟨next, none⟩ → right = ⟨next', none⟩ → InStep source next next' →
      InStepOutcomes source (continuation next) (continuation' next')) :
    InStepOutcomes source (left.resume continuation) (right.resume continuation') := by
  obtain ⟨next, fault?⟩ := left
  obtain ⟨next', fault?'⟩ := right
  obtain ⟨sameFault, inStep⟩ := same
  obtain rfl : fault?' = fault? := sameFault
  cases fault?' with
  | none => exact onward next next' rfl rfl inStep
  | some fault => exact ⟨rfl, inStep⟩

namespace InStep

/-! ## Another source -/

theorem rekey (inStep : InStep .keys first second) (keys keys' : Keypad) :
    InStep .keys { first with keys } { second with keys := keys' } :=
  { inStep with keys := fun other => absurd rfl other }

theorem retime (inStep : InStep .timers first second) (delay sound delay' sound' : Countdown) :
    InStep .timers { first with delay, sound } { second with delay := delay', sound := sound' } :=
  { inStep with
    delay := fun other => absurd rfl other
    sound := fun other => absurd rfl other }

/-! ## Small steps -/

theorem register_eq (inStep : InStep source first second) (x : Register) :
    second.register x = first.register x := by
  rw [register, register, inStep.registers]

theorem next (inStep : InStep source first second) : InStep source first.next second.next :=
  { inStep with pc := congrArg (· + 2) inStep.pc }

theorem skipIf (inStep : InStep source first second) (condition : Bool) :
    InStep source (first.skipIf condition) (second.skipIf condition) := by
  cases condition with
  | false => exact inStep.next
  | true => exact inStep.next.next

theorem setRegister (inStep : InStep source first second) (x : Register) (value : UInt8) :
    InStep source (first.setRegister x value) (second.setRegister x value) :=
  { inStep with registers := congrArg (·.setIfInBounds x value) inStep.registers }

theorem setFlag (inStep : InStep source first second) (flag : Bool) :
    InStep source (first.setFlag flag) (second.setFlag flag) :=
  inStep.setRegister flagRegister _

theorem combine (inStep : InStep source first second) (op : Arithmetic) (x y : Register) :
    InStep source (first.combine op x y) (second.combine op x y) := by
  simp only [Machine.combine, inStep.register_eq]
  split
  · exact (inStep.setRegister x _).setFlag _
  · exact inStep.setRegister x _

theorem setDelay (inStep : InStep source first second) (value : UInt8) :
    InStep source (first.setDelay value) (second.setDelay value) :=
  { inStep with delay := fun kept => congrArg (Countdown.set · value) (inStep.delay kept) }

theorem setSound (inStep : InStep source first second) (value : UInt8) :
    InStep source (first.setSound value) (second.setSound value) :=
  { inStep with sound := fun kept => congrArg (Countdown.set · value) (inStep.sound kept) }

theorem isDown_eq (inStep : InStep source first second) (deaf : source ≠ .keys) (number : UInt8) :
    second.isDown number = first.isDown number := by
  rw [isDown, isDown, inStep.keys deaf]

theorem returnToCall (inStep : InStep source first second) :
    InStepResults source first.returnToCall second.returnToCall := by
  rw [Machine.returnToCall, Machine.returnToCall, inStep.calls, inStep.pc]
  cases first.calls with
  | nil => exact .error _
  | cons caller earlier => exact .ok { inStep with calls := rfl, pc := rfl }

theorem load (inStep : InStep source first second) (address : Nat) (data : List UInt8) :
    InStepResults source (first.load address data) (second.load address data) := by
  rw [Machine.load, Machine.load, inStep.memory]
  cases first.memory.write address data with
  | error fault => exact .error fault
  | ok memory => exact .ok { inStep with memory := rfl }

/-! ## Instructions -/

/-- An operation that does not read the source keeps the machines in step. -/
theorem perform (inStep : InStep source first second) {operation : Operation}
    (unread : operation.source? ≠ some source) :
    InStepResults source (first.perform operation) (second.perform operation) := by
  cases operation with
  | clearScreen =>
      exact .ok (next { inStep with screen := congrArg Screen.clear inStep.screen })
  | endSubroutine => exact inStep.returnToCall.next
  | jump target => exact .ok { inStep with pc := rfl }
  | call target =>
      exact .ok { inStep with
        calls := congrArg₂ List.cons inStep.pc inStep.calls
        pc := rfl }
  | setIndex address => exact .ok (next { inStep with index := rfl })
  | jumpOffset base =>
      simp only [Machine.perform, inStep.register_eq]
      exact .ok { inStep with pc := rfl }
  | skipIfByte x kk =>
      simp only [Machine.perform, inStep.register_eq]
      exact .ok (inStep.skipIf _)
  | skipUnlessByte x kk =>
      simp only [Machine.perform, inStep.register_eq]
      exact .ok (inStep.skipIf _)
  | skipIfEqual x y =>
      simp only [Machine.perform, inStep.register_eq]
      exact .ok (inStep.skipIf _)
  | skipUnlessEqual x y =>
      simp only [Machine.perform, inStep.register_eq]
      exact .ok (inStep.skipIf _)
  | load x kk => exact .ok (inStep.setRegister x kk).next
  | add x kk =>
      simp only [Machine.perform, inStep.register_eq]
      exact .ok (inStep.setRegister x _).next
  | random x mask =>
      have kept : source ≠ .generator := fun same => unread (congrArg some same.symm)
      have drawn : InStep source { first with generator := first.generator.next }
          { second with generator := first.generator.next } :=
        { inStep with generator := fun _ => rfl }
      simp only [Machine.perform, inStep.generator kept]
      exact .ok (drawn.setRegister x _).next
  | combine op x y => exact .ok (inStep.combine op x y).next
  | skipIfKey x =>
      have kept : source ≠ .keys := fun same => unread (congrArg some same.symm)
      simp only [Machine.perform, inStep.register_eq, inStep.isDown_eq kept]
      cases first.isDown (first.register x) with
      | error fault => exact .error fault
      | ok down => exact .ok (inStep.skipIf down)
  | skipUnlessKey x =>
      have kept : source ≠ .keys := fun same => unread (congrArg some same.symm)
      simp only [Machine.perform, inStep.register_eq, inStep.isDown_eq kept]
      cases first.isDown (first.register x) with
      | error fault => exact .error fault
      | ok down => exact .ok (inStep.skipIf !down)
  | readDelay x =>
      have kept : source ≠ .timers := fun same => unread (congrArg some same.symm)
      simp only [Machine.perform, inStep.delay kept]
      exact .ok (inStep.setRegister x _).next
  | awaitKey x =>
      have kept : source ≠ .keys := fun same => unread (congrArg some same.symm)
      exact .ok { inStep with waiting := rfl, awake := fun same => absurd same kept }
  | setDelay x =>
      simp only [Machine.perform, inStep.register_eq]
      exact .ok (inStep.setDelay _).next
  | setSound x =>
      simp only [Machine.perform, inStep.register_eq]
      exact .ok (inStep.setSound _).next
  | addIndex x =>
      simp only [Machine.perform, inStep.register_eq, inStep.index]
      exact .ok (next { inStep with index := rfl })
  | pointAtGlyph x =>
      simp only [Machine.perform, glyphAddress, inStep.register_eq, inStep.font]
      exact .ok (next { inStep with index := rfl, font := rfl })
  | storeDecimal x =>
      simp only [Machine.perform, inStep.register_eq, inStep.index]
      exact (inStep.load _ _).next
  | storeRegisters x =>
      simp only [Machine.perform, registersThrough, inStep.registers, inStep.index]
      exact (inStep.load _ _).next
  | loadRegisters x =>
      simp only [Machine.perform, inStep.memory, inStep.registers, inStep.index]
      cases first.memory.read first.index.toNat (x + 1) with
      | error fault => exact .error fault
      | ok data => exact .ok (next { inStep with memory := rfl, registers := rfl, index := rfl })
  | draw x y n =>
      simp only [Machine.perform, inStep.register_eq, inStep.screen, inStep.memory, inStep.index]
      cases first.screen.drawFrom (first.register x).toNat (first.register y).toNat
        first.memory.bytes first.index.toNat n with
      | error fault => exact .error fault
      | ok drawn =>
          have painted : InStep source { first with screen := drawn.1 }
              { second with screen := drawn.1, memory := first.memory, index := first.index } :=
            { inStep with screen := rfl, memory := rfl, index := rfl }
          exact .ok (painted.setFlag drawn.2).next

theorem step (inStep : InStep source first second) (unread : first.reads? ≠ some source) :
    InStepResults source first.step second.step := by
  have fetched : second.fetch = first.fetch := by rw [fetch, fetch, inStep.memory, inStep.pc]
  rw [Machine.step, Machine.step, fetched, inStep.pc]
  rw [reads?, operation?] at unread
  cases given : first.fetch with
  | error fault => exact .error fault
  | ok word =>
      rw [given] at unread
      cases asked : Operation.ofWord? word with
      | none =>
          simp only [bind, Except.bind, asked]
          exact .error _
      | some operation =>
          simp only [bind, Except.bind, asked]
          refine inStep.perform fun reading => unread ?_
          simp only [Except.toOption, Option.bind_some, asked, reading]

/-- An execution that does not read the source has the same outcome for both. -/
theorem execute (inStep : InStep source first second) (unread : first.reads? ≠ some source) :
    InStepOutcomes source first.execute second.execute := by
  have stepped := inStep.step unread
  rw [Machine.execute, Machine.execute]
  generalize first.step = left at stepped ⊢
  generalize second.step = right at stepped ⊢
  cases stepped with
  | ok after => exact ⟨rfl, { after with unhandled := rfl }⟩
  | error fault => exact ⟨rfl, { inStep with unhandled := rfl }⟩

/-! ## Ticks and frames -/

theorem advanceTimers (inStep : InStep source first second) {dt dt' : Float}
    (time : source ≠ .timers → dt' = dt) :
    InStep source (first.advanceTimers dt) (second.advanceTimers dt') :=
  { inStep with
    delay := fun kept => congrArg₂ Countdown.advance (inStep.delay kept) (time kept)
    sound := fun kept => congrArg₂ Countdown.advance (inStep.sound kept) (time kept) }

/-- Both machines sleep on, or both are awake and in step. -/
theorem awaken (inStep : InStep source first second) :
    (first.awaken? = none ∧ second.awaken? = none) ∨
      ∃ awake awake', first.awaken? = some awake ∧ second.awaken? = some awake' ∧
        InStep source awake awake' := by
  rw [awaken?, awaken?, inStep.waiting]
  cases waiting : first.waiting with
  | none => exact Or.inr ⟨first, second, rfl, rfl, inStep⟩
  | some x =>
      -- a machine that waits looks at its keys, and they are the same
      have kept : source ≠ .keys := fun same => by
        cases (inStep.awake same).symm.trans waiting
      have lowest : second.lowestKey? = first.lowestKey? := by
        rw [lowestKey?, lowestKey?, inStep.keys kept]
      rw [lowest]
      cases first.lowestKey? with
      | none => exact Or.inl ⟨rfl, rfl⟩
      | some key =>
          have woken : InStep source { first with waiting := none }
              { second with waiting := none } :=
            { inStep with waiting := rfl, awake := fun _ => rfl }
          exact Or.inr ⟨_, _, rfl, rfl, (woken.setRegister x _).next⟩

theorem burst (inStep : InStep source first second) {count : Nat}
    (unread : source.Unread (burstDeeds count first)) :
    InStepOutcomes source (Machine.burst count first) (Machine.burst count second) := by
  induction count generalizing first second with
  | zero => exact ⟨rfl, inStep⟩
  | succ count induction =>
      rcases inStep.awaken with ⟨asleep, asleep'⟩ | ⟨awake, awake', awoken, awoken', started⟩
      · rw [Machine.burst, Machine.burst, asleep, asleep']
        exact ⟨rfl, inStep⟩
      · obtain ⟨now, later⟩ := unread.burst awoken
        rw [burst_of_awoken awoken, burst_of_awoken awoken']
        exact (started.execute now).resume fun next _ executed _ after =>
          induction after (later next executed)

theorem tick (inStep : InStep source first second) {dt dt' : Float}
    (pace : second.config.instructionsPerTick = first.config.instructionsPerTick)
    (time : source ≠ .timers → dt' = dt) (unread : source.Unread (first.tickDeeds dt)) :
    InStepOutcomes source (first.tick dt) (second.tick dt') := by
  rw [Machine.tick, Machine.tick, pace]
  exact (inStep.advanceTimers time).burst unread

theorem ticks (inStep : InStep source first second) {dt : Float} {count : Nat}
    (pace : second.config.instructionsPerTick = first.config.instructionsPerTick)
    (unread : source.Unread (ticksDeeds dt count first)) :
    InStepOutcomes source (Machine.ticks dt count first) (Machine.ticks dt count second) := by
  induction count generalizing first second with
  | zero => exact ⟨rfl, inStep⟩
  | succ count induction =>
      obtain ⟨now, later⟩ := unread.ticks
      rw [ticks_succ, ticks_succ]
      refine (inStep.tick pace (fun _ => rfl) now).resume fun next next' ticked ticked' after => ?_
      have config := config_of_tick ticked
      have config' := config_of_tick ticked'
      exact induction after (by rw [config, config', pace]) (later next ticked)

end InStep

end Machine

end Chip8

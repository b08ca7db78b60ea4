import Chip8.Console.Keystream
import Chip8.Proofs.Sources

/-!
# Histories in lockstep

Two machines that agree on everything but one source live through histories that feed
it differently.  Keys are pressed and released on one of them only, ticks take
different times, or the random bytes come from different seeds.  The two histories are
written side by side.  Whatever else is asked of the one is asked of the other too.

As long as no instruction of the first history reads the source, both give the same
replies, and after every entry the machines still agree on everything but the source.
-/

namespace Chip8

/-! ## Two histories side by side -/

/-- The configuration without what belongs to the source: a seed makes random bytes. -/
def Source.settings : Source → Config → Config
  | .generator, config => { config with seed := none }
  | _, config => config

/-- What does not depend on a seed is the same for configurations with the same
settings. -/
theorem Source.eq_of_settings {α : Type} {source : Source} {first second : Config}
    (view : Config → α) (blind : ∀ config seed, view { config with seed } = view config)
    (same : source.settings second = source.settings first) : view second = view first := by
  have through : ∀ config, view (source.settings config) = view config := by
    intro config
    cases source with
    | generator => exact blind config none
    | _ => rfl
  rw [← through second, same, through first]

/-- Whether a request does nothing but feed the source. -/
def Request.feeds (request : Request) : Source → Bool
  | .keys => request.kind = .keying
  | .timers => request.kind = .timing
  | .generator => false

/-- An entry of two histories that are written side by side. -/
inductive Joint where
  | both (first second : Request)
  | left (request : Request)
  | right (request : Request)

namespace Joint

/-- The histories differ by the entry in what they feed the source at most. -/
def Fair (source : Source) : Joint → Prop
  | .both first second =>
      second = first ∨
        source = .timers ∧ ∃ dt dt', first = .tick dt ∧ second = .tick dt'
  | .left request => request.feeds source = true
  | .right request => request.feeds source = true

/-- What the entry asks of the first machine. -/
def lead? : Joint → Option Request
  | .both first _ => some first
  | .left request => some request
  | .right _ => none

end Joint

/-- What is given back for a request that yields no number. -/
def Outcome.reply (outcome : Outcome) : Except Fault (Option Nat) :=
  outcome.fault?.elim (.ok none) .error

namespace Machine

/-- What is given back for a request: a fault, or the number of bytes of a program. -/
def reply (machine : Machine) : Request → Except Fault (Option Nat)
  | .loadProgram source => (machine.loadProgram source).map fun loaded => some loaded.2
  | request => (machine.answer request).reply

/-- The machines agree on every component but the source. -/
structure AgreeBut (source : Source) (first second : Machine) : Prop
    extends AlikeBut source first second where
  settings : source.settings second.config = source.settings first.config

/-- The machines agree on every component but the source before and after every entry,
and what is asked of both has the same reply. -/
def Lockstep (source : Source) : Machine → Machine → List Joint → Prop
  | first, second, [] => AgreeBut source first second
  | first, second, .both request request' :: rest =>
      AgreeBut source first second ∧ second.reply request' = first.reply request ∧
        Lockstep source (first.answer request).machine (second.answer request').machine rest
  | first, second, .left request :: rest =>
      AgreeBut source first second ∧ Lockstep source (first.answer request).machine second rest
  | first, second, .right request :: rest =>
      AgreeBut source first second ∧ Lockstep source first (second.answer request).machine rest

variable {source : Source} {first second : Machine} {request : Request}

theorem InStepOutcomes.reply_eq {left right : Outcome} (same : InStepOutcomes source left right) :
    right.reply = left.reply := by
  rw [Outcome.reply, Outcome.reply, same.fault?]

namespace InStep

/-! ## The same request -/

theorem loadFont (inStep : InStep source first second) (address : UInt16) (font : Font) :
    InStepResults source (first.loadFont address font) (second.loadFont address font) := by
  rw [Machine.loadFont, Machine.loadFont, inStep.memory]
  cases first.memory.writeFont address.toNat font with
  | error fault => exact .error fault
  | ok memory => exact .ok { inStep with memory := rfl, font := rfl }

theorem setKey (inStep : InStep source first second) (number : UInt8) (down : Bool) :
    InStepResults source (first.setKey number down) (second.setKey number down) := by
  rw [Machine.setKey, Machine.setKey]
  cases key number with
  | error fault => exact .error fault
  | ok key =>
      exact .ok { inStep with
        keys := fun kept => congrArg (Vector.setIfInBounds · key down) (inStep.keys kept) }

/-- A program is loaded into both machines or refused by both, and its bytes are
counted alike. -/
theorem loadProgram (inStep : InStep source first second)
    (start : second.config.start = first.config.start) (program : ProgramSource) :
    InStepResults source ((first.loadProgram program).map Prod.fst)
        ((second.loadProgram program).map Prod.fst) ∧
      second.reply (.loadProgram program) = first.reply (.loadProgram program) := by
  obtain ⟨bytes, _ | failure⟩ := program
  · have limit : second.programLimit = first.programLimit := by
      rw [programLimit, programLimit, inStep.memory, start]
    simp only [reply, Machine.loadProgram, limit, start]
    split
    · exact ⟨.error _, rfl⟩
    · have loaded := inStep.load first.config.start.toNat bytes
      generalize first.load first.config.start.toNat bytes = left at loaded ⊢
      generalize second.load first.config.start.toNat bytes = right at loaded ⊢
      cases loaded with
      | ok after => exact ⟨.ok after, rfl⟩
      | error fault => exact ⟨.error fault, rfl⟩
  · exact ⟨.error _, rfl⟩

/-- A request that reads no source keeps the machines in step. -/
theorem answer (inStep : InStep source first second)
    (settings : source.settings second.config = source.settings first.config)
    (unread : source.Unread (first.deeds request)) :
    InStepOutcomes source (first.answer request) (second.answer request) := by
  have start := Source.eq_of_settings Config.start (fun _ _ => rfl) settings
  have pace := Source.eq_of_settings Config.instructionsPerTick (fun _ _ => rfl) settings
  have length := Source.eq_of_settings Config.ticksPerFrame (fun _ _ => rfl) settings
  have time := Source.eq_of_settings Config.tickSeconds (fun _ _ => rfl) settings
  cases request with
  | load address data => exact (inStep.load address data).outcomes inStep
  | loadFont address font => exact (inStep.loadFont address font).outcomes inStep
  | loadProgram program => exact (inStep.loadProgram start program).1.outcomes inStep
  | press number => exact (inStep.setKey number true).outcomes inStep
  | release number => exact (inStep.setKey number false).outcomes inStep
  | hold hold => exact ⟨rfl, { inStep with keys := fun _ => rfl }⟩
  | callAt target =>
      exact ⟨rfl, { inStep with
        calls := congrArg₂ List.cons inStep.pc inStep.calls
        pc := rfl }⟩
  | returnToCall => exact inStep.returnToCall.outcomes inStep
  | setDelay value => exact ⟨rfl, inStep.setDelay value⟩
  | setSound value => exact ⟨rfl, inStep.setSound value⟩
  | addBreakpoint breakpoint =>
      exact ⟨rfl, { inStep with breakpoints := congrArg (·.insert breakpoint) inStep.breakpoints }⟩
  | removeBreakpoint address =>
      exact ⟨rfl, { inStep with breakpoints := congrArg (·.erase address) inStep.breakpoints }⟩
  | execute => exact inStep.execute (unread _ List.mem_cons_self)
  | tick dt => exact inStep.tick pace (fun _ => rfl) unread
  | frame =>
      rw [Machine.answer, Machine.answer, frame, frame, length, time]
      exact inStep.ticks pace unread

/-- A request that reads no source has the same reply from both. -/
theorem reply_eq (inStep : InStep source first second)
    (settings : source.settings second.config = source.settings first.config)
    (unread : source.Unread (first.deeds request)) :
    second.reply request = first.reply request := by
  have same := inStep.answer settings unread
  cases request with
  | loadProgram program =>
      have start := Source.eq_of_settings Config.start (fun _ _ => rfl) settings
      exact (inStep.loadProgram start program).2
  | _ => exact same.reply_eq

/-- A tick of any length has the same reply from both if the timers are the source. -/
theorem tick_of_timers (inStep : InStep .timers first second)
    (settings : Source.timers.settings second.config = Source.timers.settings first.config)
    (dt dt' : Float) (unread : Source.timers.Unread (first.deeds (.tick dt))) :
    InStepOutcomes .timers (first.answer (.tick dt)) (second.answer (.tick dt')) :=
  inStep.tick (congrArg Config.instructionsPerTick settings) (fun other => absurd rfl other) unread

end InStep

/-! ## Feeding one of the machines -/

/-- A request that feeds a source changes nothing else. -/
theorem answer_of_feeds (machine : Machine) (feeding : request.feeds source = true) :
    (source = .keys ∧ ∃ keys, (machine.answer request).machine = { machine with keys }) ∨
      (source = .timers ∧
        ∃ delay sound, (machine.answer request).machine = { machine with delay, sound }) := by
  have direct : request.runs = false := by
    cases source <;> cases request <;> first | rfl | cases feeding
  have touched := @touched_answer machine _ direct
  generalize (machine.answer request).machine = after at touched ⊢
  cases source with
  | keys =>
      rw [show request.kind = .keying from of_decide_eq_true feeding] at touched
      cases touched with
      | keyed keys => exact Or.inl ⟨rfl, keys, rfl⟩
  | timers =>
      rw [show request.kind = .timing from of_decide_eq_true feeding] at touched
      cases touched with
      | timed delay sound => exact Or.inr ⟨rfl, _, _, rfl⟩
  | generator => cases feeding

namespace InStep

theorem feed_left (inStep : InStep source first second) (feeding : request.feeds source = true) :
    InStep source (first.answer request).machine second := by
  rcases first.answer_of_feeds feeding with ⟨rfl, keys, fed⟩ | ⟨rfl, delay, sound, fed⟩
  · rw [fed]
    exact inStep.rekey keys second.keys
  · rw [fed]
    exact inStep.retime delay sound second.delay second.sound

theorem feed_right (inStep : InStep source first second) (feeding : request.feeds source = true) :
    InStep source first (second.answer request).machine := by
  rcases second.answer_of_feeds feeding with ⟨rfl, keys, fed⟩ | ⟨rfl, delay, sound, fed⟩
  · rw [fed]
    exact inStep.rekey first.keys keys
  · rw [fed]
    exact inStep.retime first.delay first.sound delay sound

end InStep

/-! ## Whole histories -/

/-- Machines in step with the same settings go through fair entries in lockstep. -/
theorem InStep.lockstep {joint : List Joint} (inStep : InStep source first second)
    (settings : source.settings second.config = source.settings first.config)
    (fair : ∀ entry ∈ joint, entry.Fair source)
    (unread : source.Unread (first.deedsAll (joint.filterMap Joint.lead?))) :
    Lockstep source first second joint := by
  induction joint generalizing first second with
  | nil => exact ⟨inStep.toAlikeBut, settings⟩
  | cons entry rest induction =>
      obtain ⟨now, later⟩ := List.forall_mem_cons.mp fair
      have agree : AgreeBut source first second := ⟨inStep.toAlikeBut, settings⟩
      cases entry with
      | both request request' =>
          obtain ⟨here, further⟩ := unread.append
          have config := first.config_answer request
          have config' := second.config_answer request'
          rcases now with rfl | ⟨rfl, dt, dt', rfl, rfl⟩
          · have same := inStep.answer settings here
            exact ⟨agree, inStep.reply_eq settings here,
              induction same.machine (by rw [config, config', settings]) later further⟩
          · have same := inStep.tick_of_timers settings dt dt' here
            exact ⟨agree, same.reply_eq,
              induction same.machine (by rw [config, config', settings]) later further⟩
      | left request =>
          have config := first.config_answer request
          refine ⟨agree, induction (inStep.feed_left now) (by rw [config, settings]) later ?_⟩
          exact unread.append.2
      | right request =>
          have config := second.config_answer request
          exact ⟨agree, induction (inStep.feed_right now) (by rw [config, settings]) later unread⟩

/-- Machines that agree on everything but one source stay in lockstep, however the
source is fed, as long as the first one executes no instruction that reads it.  Where
the source is the keys, neither machine waits for one at the start. -/
theorem unread_source_leaves_lockstep (source : Source) (first second : Machine)
    (agree : AgreeBut source first second) (awake : source = .keys → first.waiting = none)
    (joint : List Joint) (fair : ∀ entry ∈ joint, entry.Fair source)
    (unread : source.Unread (first.deedsAll (joint.filterMap Joint.lead?))) :
    Lockstep source first second joint :=
  InStep.lockstep ⟨agree.toAlikeBut, awake⟩ agree.settings fair unread

/-- A program that counts in a loop does not notice that a key is pressed on one
machine and released on the other. -/
theorem counting_ignores_keys :
    ∃ first second : Machine, ∃ joint : List Joint,
      boot Config.standard 0 = .ok first ∧
      second = { first with keys := Vector.replicate 16 true } ∧
      joint = [.both (.loadProgram ⟨[0x7A, 0x01, 0x12, 0x00], none⟩)
          (.loadProgram ⟨[0x7A, 0x01, 0x12, 0x00], none⟩),
        .left (.press 3), .both .execute .execute, .right (.release 7), .both .frame .frame] ∧
      (first.deedsAll (joint.filterMap Joint.lead?)).length = 21 ∧
      Lockstep .keys first second joint := by
  let program : Request := .loadProgram ⟨[0x7A, 0x01, 0x12, 0x00], none⟩
  let joint : List Joint :=
    [.both program program, .left (.press 3), .both .execute .execute, .right (.release 7),
      .both .frame .frame]
  have made :
      ((boot Config.standard 0).map fun first =>
        decide (first.waiting = none) &&
          decide ((first.deedsAll (joint.filterMap Joint.lead?)).length = 21) &&
          decide (Source.keys.Unread (first.deedsAll (joint.filterMap Joint.lead?)))).toOption =
        some true := by
    decide +kernel
  obtain ⟨first, built, made⟩ := exists_ok_of_map made
  simp only [Bool.and_eq_true, decide_eq_true_eq] at made
  obtain ⟨⟨awake, count⟩, unread⟩ := made
  have agree : AgreeBut .keys first { first with keys := Vector.replicate 16 true } := by
    constructor
    · constructor <;> first | rfl | exact fun other => absurd rfl other | exact fun _ => rfl
    · rfl
  have fair : ∀ entry ∈ joint, entry.Fair .keys := by
    simp [joint, program, Joint.Fair, Request.feeds, Request.kind]
  exact ⟨first, _, joint, built, rfl, rfl, count,
    unread_source_leaves_lockstep .keys first _ agree (fun _ => awake) joint fair unread⟩

end Machine

end Chip8

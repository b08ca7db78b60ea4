import Chip8.Proofs.Failures
import Chip8.Proofs.Histories

/-!
# Waiting for a key

A machine that waits for a key stands on the word that asked for it.  Three facts keep
it there.  Executing that word again changes nothing but the mark of an unknown word.
Time that passes while all keys are up changes nothing but the timers.  And what a
user may ask of a waiting machine leaves its program alone.

A tick that finds a key down is a tick of the machine that has the key in its register
and stands behind the word.  Nothing but such a tick ends a wait.
-/

namespace Chip8

/-- Whether a request lets time pass. -/
def Request.passesTime : Request → Bool
  | .tick _ => true
  | .frame => true
  | _ => false

/-- Whether a request can reach the program or the place where it goes on. -/
def Request.disturbs (request : Request) : Bool :=
  match request.kind with
  | .storing => true
  | .moving => true
  | _ => false

namespace Machine

variable {machine after : Machine} {x : Register} {key : Nibble}

/-! ## The lowest key -/

/-- All keys are up. -/
def AllUp (machine : Machine) : Prop :=
  ∀ key, machine.keys.get key = false

/-- The key is down, and all keys below it are up. -/
structure LowestKey (machine : Machine) (key : Nibble) : Prop where
  down : machine.keys.get key = true
  below : ∀ lower < key, machine.keys.get lower = false

theorem lowestKey?_eq_some_iff : machine.lowestKey? = some key ↔ machine.LowestKey key := by
  rw [lowestKey?, Vector.finIdxOf?, Option.map_eq_some_iff]
  constructor
  · rintro ⟨found, searched, rfl⟩
    obtain ⟨down, below⟩ := Array.finIdxOf?_eq_some_iff.mp searched
    refine ⟨down, fun lower before => Bool.eq_false_iff.mpr ?_⟩
    exact below (lower.cast machine.keys.size_toArray.symm) before
  · intro lowest
    refine ⟨key.cast machine.keys.size_toArray.symm, ?_, rfl⟩
    refine Array.finIdxOf?_eq_some_iff.mpr ⟨lowest.down, fun lower before => ?_⟩
    exact Bool.eq_false_iff.mp (lowest.below (lower.cast machine.keys.size_toArray) before)

theorem lowestKey?_eq_none_iff : machine.lowestKey? = none ↔ machine.AllUp := by
  rw [lowestKey?, Vector.finIdxOf?, Option.map_eq_none_iff, Array.finIdxOf?_eq_none_iff]
  constructor
  · intro absent key
    exact Bool.eq_false_iff.mpr fun down => absent (down ▸ Array.getElem_mem _)
  · intro up found
    obtain ⟨number, bound, down⟩ := Array.mem_iff_getElem.mp found
    rw [machine.keys.size_toArray] at bound
    exact Bool.false_ne_true ((up ⟨number, bound⟩).symm.trans down)

/-- Some key is down exactly if there is a lowest one. -/
theorem exists_lowestKey (down : ¬ machine.AllUp) : ∃ key, machine.LowestKey key := by
  cases found : machine.lowestKey? with
  | none => exact absurd (lowestKey?_eq_none_iff.mp found) down
  | some key => exact ⟨key, lowestKey?_eq_some_iff.mp found⟩

/-! ## The end of a wait -/

/-- The machine with a key in the register that waited, behind the word that asked
for it. -/
def resumed (machine : Machine) (x : Register) (key : Nibble) : Machine :=
  { machine with
    registers := machine.registers.assign x (UInt8.ofNat key)
    pc := machine.pc + 2
    waiting := none }

theorem awaken?_of_lowestKey (waiting : machine.waiting = some x) (lowest : machine.LowestKey key) :
    machine.awaken? = some (machine.resumed x key) := by
  rw [awaken?, waiting, lowestKey?_eq_some_iff.mpr lowest]
  exact congrArg some (next_setRegister _ _ _)

theorem awaken?_of_allUp (waiting : machine.waiting = some x) (up : machine.AllUp) :
    machine.awaken? = none := by
  rw [awaken?, waiting, lowestKey?_eq_none_iff.mpr up]
  rfl

theorem tick_of_lowestKey (waiting : machine.waiting = some x) (lowest : machine.LowestKey key)
    (busy : 0 < machine.config.instructionsPerTick) (dt : Float) :
    machine.tick dt = (machine.resumed x key).tick dt := by
  obtain ⟨count, several⟩ := Nat.exists_eq_succ_of_ne_zero (Nat.pos_iff_ne_zero.mp busy)
  -- time passes alike for both, and then both bursts begin with the resumed machine
  have slept : (machine.advanceTimers dt).awaken? =
      some ((machine.advanceTimers dt).resumed x key) :=
    awaken?_of_lowestKey waiting ⟨lowest.down, lowest.below⟩
  show burst machine.config.instructionsPerTick (machine.advanceTimers dt) =
    burst machine.config.instructionsPerTick ((machine.advanceTimers dt).resumed x key)
  rw [several, burst, burst, slept]
  rfl

theorem frame_of_lowestKey (waiting : machine.waiting = some x) (lowest : machine.LowestKey key)
    (busy : 0 < machine.config.instructionsPerTick) (ticking : 0 < machine.config.ticksPerFrame) :
    machine.frame = (machine.resumed x key).frame := by
  obtain ⟨count, several⟩ := Nat.exists_eq_succ_of_ne_zero (Nat.pos_iff_ne_zero.mp ticking)
  show ticks machine.config.tickSeconds machine.config.ticksPerFrame machine =
    ticks machine.config.tickSeconds machine.config.ticksPerFrame (machine.resumed x key)
  rw [several, ticks, ticks, tick_of_lowestKey waiting lowest busy]

/-! ## Time that passes during a wait -/

/-- The machine differs at most in its timers. -/
def SameButTimers (machine after : Machine) : Prop :=
  ∃ delay sound, after = { machine with delay, sound }

theorem SameButTimers.trans {between : Machine} (first : machine.SameButTimers between)
    (second : between.SameButTimers after) : machine.SameButTimers after := by
  obtain ⟨_, _, rfl⟩ := first
  obtain ⟨delay, sound, rfl⟩ := second
  exact ⟨delay, sound, rfl⟩

theorem tick_of_allUp (waiting : machine.waiting = some x) (up : machine.AllUp) (dt : Float) :
    machine.tick dt = ⟨machine.advanceTimers dt, none⟩ := by
  have slept : (machine.advanceTimers dt).awaken? = none := awaken?_of_allUp waiting up
  rw [tick]
  cases machine.config.instructionsPerTick with
  | zero => rfl
  | succ count => rw [burst, slept]

theorem ticks_of_allUp (waiting : machine.waiting = some x) (up : machine.AllUp) (dt : Float)
    (count : Nat) :
    ∃ after, ticks dt count machine = ⟨after, none⟩ ∧ machine.SameButTimers after := by
  induction count generalizing machine with
  | zero => exact ⟨machine, rfl, machine.delay, machine.sound, rfl⟩
  | succ count induction =>
      obtain ⟨after, ticked, same⟩ := @induction (machine.advanceTimers dt) waiting up
      refine ⟨after, ?_, SameButTimers.trans ⟨_, _, rfl⟩ same⟩
      rw [ticks, tick_of_allUp waiting up]
      exact ticked

theorem answer_of_allUp (waiting : machine.waiting = some x) (up : machine.AllUp)
    {request : Request} (passing : request.passesTime = true) :
    ∃ after, machine.answer request = ⟨after, none⟩ ∧ machine.SameButTimers after := by
  cases request with
  | tick dt => exact ⟨_, tick_of_allUp waiting up dt, _, _, rfl⟩
  | frame => exact ticks_of_allUp waiting up _ _
  | _ => cases passing

/-- Nothing fails and only the timers change while time passes with all keys up. -/
theorem idle_of_allUp (waiting : machine.waiting = some x) (up : machine.AllUp)
    {requests : List Request} (passing : ∀ request ∈ requests, request.passesTime = true) :
    machine.faults requests = [] ∧ machine.SameButTimers (machine.afterAll requests) := by
  induction requests generalizing machine with
  | nil => exact ⟨rfl, machine.delay, machine.sound, rfl⟩
  | cons request rest induction =>
      obtain ⟨now, later⟩ := List.forall_mem_cons.mp passing
      obtain ⟨between, answered, same⟩ := answer_of_allUp waiting up now
      obtain ⟨delay, sound, rfl⟩ := same
      obtain ⟨quiet, still⟩ := @induction { machine with delay, sound } waiting up later
      rw [faults, afterAll_cons, answered]
      exact ⟨quiet, SameButTimers.trans ⟨delay, sound, rfl⟩ still⟩

/-! ## The word that asked for a key -/

/-- The program counter is at the word that asks for a key in the register. -/
def AtKeyWord (machine : Machine) (x : Register) : Prop :=
  ∃ word, machine.memory.HoldsWord machine.pc.toNat word ∧ word.toNat = 0xF00A + x * 0x100

/-- A machine that waits stands on the word that asked for the key. -/
def WaitsInPlace (machine : Machine) : Prop :=
  ∀ x, machine.waiting = some x → machine.AtKeyWord x

/-- The word asks for the key again, and that is all. -/
theorem execute_of_waiting (waiting : machine.waiting = some x) (asked : machine.AtKeyWord x) :
    machine.execute = ⟨{ machine with unhandled := false }, none⟩ := by
  obtain ⟨word, held, number⟩ := asked
  have again : { machine with waiting := some x } = machine := by rw [← waiting]
  rw [execute, @step_eq_perform _ _ (.awaitKey x) held number, perform, again]

/-- Only the word that asks for a key touches the wait. -/
theorem waiting_of_row {word : UInt16} (row : Row machine word after) :
    after.waiting = machine.waiting ∨
      ∃ x : Register, word.toNat = 0xF00A + x * 0x100 ∧
        after = { machine with waiting := some x } := by
  cases row with
  | awaitKey x number => exact Or.inr ⟨x, number, rfl⟩
  | _ => exact Or.inl rfl

/-- An execution leaves the wait as it was, or begins one at its own word. -/
theorem waiting_execute (machine : Machine) :
    machine.execute.machine.waiting = machine.waiting ∨
      ∃ x, machine.AtKeyWord x ∧
        machine.execute.machine = { machine with waiting := some x, unhandled := false } := by
  rw [execute]
  cases stepped : machine.step with
  | error fault => exact Or.inl rfl
  | ok after =>
      obtain ⟨word, held, row⟩ := step_eq_ok_iff.mp stepped
      rcases waiting_of_row row with same | ⟨x, number, rfl⟩
      · exact Or.inl same
      · exact Or.inr ⟨x, ⟨word, held, number⟩, rfl⟩

theorem waitsInPlace_execute (inPlace : machine.WaitsInPlace) :
    machine.execute.machine.WaitsInPlace := by
  cases waiting : machine.waiting with
  | some x =>
      have asked := inPlace x waiting
      rw [execute_of_waiting waiting asked]
      intro y same
      obtain rfl := Option.some.inj (waiting.symm.trans same)
      exact asked
  | none =>
      rcases machine.waiting_execute with same | ⟨x, asked, executed⟩
      · intro y impossible
        cases waiting.symm.trans (same.symm.trans impossible)
      · rw [executed]
        rintro y ⟨⟩
        exact asked

theorem lasting_waitsInPlace : Lasting WaitsInPlace where
  advanced _ _ inPlace := inPlace
  executed _ := waitsInPlace_execute
  awoken machine awake inPlace awoken := by
    rcases awoken_eq awoken with rfl | ⟨registers, pc, rfl⟩
    · exact inPlace
    · rintro y ⟨⟩

/-! ## Reachable machines -/

/-- A machine that was built and then asked for one thing after another.  Its program
and the place where that goes on are left alone while it waits. -/
inductive Attained (config : Config) (source : RandomSource) : Machine → Prop where
  | built {machine : Machine} (built : build config source = .ok machine) :
      Attained config source machine
  | answer {machine : Machine} (attained : Attained config source machine) (request : Request)
      (considerate : request.disturbs = true → machine.waiting = none) :
      Attained config source (machine.answer request).machine

theorem waitsInPlace_answer (inPlace : machine.WaitsInPlace) {request : Request}
    (considerate : request.disturbs = true → machine.waiting = none) :
    (machine.answer request).machine.WaitsInPlace := by
  cases running : request.runs with
  | true => exact lasting_waitsInPlace.answer running inPlace
  | false =>
      have touched := @touched_answer machine _ running
      rw [Request.disturbs] at considerate
      generalize (machine.answer request).machine = after at touched ⊢
      generalize request.kind = kind at touched considerate
      cases touched with
      | stored memory font size =>
          intro y impossible
          cases (considerate rfl).symm.trans impossible
      | moved calls pc =>
          intro y impossible
          cases (considerate rfl).symm.trans impossible
      | keyed keys => exact inPlace
      | timed delay sound => exact inPlace
      | marked breakpoints => exact inPlace

theorem Attained.waitsInPlace {config : Config} {source : RandomSource}
    (attained : Attained config source machine) : machine.WaitsInPlace := by
  induction attained with
  | built built =>
      intro x impossible
      cases (atRest_of_build built).waiting.symm.trans impossible
  | answer attained request considerate inPlace => exact waitsInPlace_answer inPlace considerate

/-! ## What ends a wait -/

/-- Only time that passes while a key is down can end a wait. -/
theorem waiting_of_answer {request : Request} (waiting : machine.waiting.isSome = true)
    (ended : (machine.answer request).machine.waiting = none) :
    request.passesTime = true ∧ ¬ machine.AllUp := by
  obtain ⟨x, waiting⟩ := Option.isSome_iff_exists.mp waiting
  have changed : (machine.answer request).machine.waiting ≠ machine.waiting := by
    rw [ended, waiting]
    exact Option.some_ne_none x |>.symm
  have passing : request.passesTime = true := by
    cases request with
    | tick dt => rfl
    | frame => rfl
    | execute =>
        rcases machine.waiting_execute with same | ⟨y, _, executed⟩
        · exact absurd same changed
        · rw [answer, executed] at ended
          cases ended
    | _ => exact absurd (touched_answer rfl).waiting changed
  refine ⟨passing, fun up => ?_⟩
  obtain ⟨after, answered, delay, sound, rfl⟩ := answer_of_allUp waiting up passing
  rw [answered] at changed
  exact changed rfl

/-- Whatever does not let time pass leaves a wait for the same register. -/
theorem waiting_answer_of_inPlace (waiting : machine.waiting = some x)
    (inPlace : machine.WaitsInPlace) {request : Request} (still : request.passesTime = false) :
    (machine.answer request).machine.waiting = some x := by
  cases request with
  | execute =>
      rw [answer, execute_of_waiting waiting (inPlace x waiting)]
      exact waiting
  | tick dt => cases still
  | frame => cases still
  | _ => exact (touched_answer rfl).waiting.trans waiting

/-- A machine that waits for a key stands on the word that asked for it.  It stays as it
is, but for the timers, while time passes with all keys up, and the first tick that
finds a key down is a tick of the machine with the lowest one in the register, behind
the word.  No request but one that finds a key down ends a wait. -/
theorem waits_until_key_down :
    (∀ (config : Config) (source : RandomSource) (machine : Machine) (x : Register),
      Attained config source machine → machine.waiting = some x →
        machine.AtKeyWord x ∧
        (machine.AllUp → ∀ requests : List Request,
          (∀ request ∈ requests, request.passesTime = true) →
            machine.faults requests = [] ∧
              machine.SameButTimers (machine.afterAll requests)) ∧
        (¬ machine.AllUp → 0 < machine.config.instructionsPerTick →
          ∃ key, machine.LowestKey key ∧
            (∀ dt, machine.tick dt = (machine.resumed x key).tick dt) ∧
            (0 < machine.config.ticksPerFrame →
              machine.frame = (machine.resumed x key).frame)) ∧
        ∀ request : Request, request.passesTime = false →
          (machine.answer request).machine.waiting = some x) ∧
    ∀ (machine : Machine) (request : Request), machine.waiting.isSome = true →
      (machine.answer request).machine.waiting = none →
        request.passesTime = true ∧ ¬ machine.AllUp := by
  refine ⟨fun config source machine x attained waiting => ?_, fun _ _ => waiting_of_answer⟩
  have inPlace := attained.waitsInPlace
  refine ⟨inPlace x waiting, fun up _ => idle_of_allUp waiting up, fun down busy => ?_,
    fun _ => waiting_answer_of_inPlace waiting inPlace⟩
  obtain ⟨key, lowest⟩ := exists_lowestKey down
  exact ⟨key, lowest, tick_of_lowestKey waiting lowest busy,
    frame_of_lowestKey waiting lowest busy⟩

/-- A program that asks for a key first waits for it, and goes on once a key is down. -/
theorem key_word_waits :
    ∃ idle pressed : Machine,
      Attained Config.standard (Keystream.source 0) idle ∧
      Attained Config.standard (Keystream.source 0) pressed ∧
      idle.waiting = some 3 ∧ pressed.waiting = some 3 ∧
      idle.AtKeyWord 3 ∧
      idle.AllUp ∧ idle.SameButTimers (idle.afterAll [.tick 0.5, .frame]) ∧
      ¬ pressed.AllUp ∧
      (∃ key, pressed.LowestKey key ∧ pressed.tick 0.5 = (pressed.resumed 3 key).tick 0.5) ∧
      (pressed.answer .execute).machine.waiting = some 3 ∧
      (pressed.answer (.tick 0.5)).machine.waiting = none ∧ Request.passesTime (.tick 0.5) := by
  have made :
      ((boot Config.standard 0).map fun machine =>
        let idle := machine.afterAll [.loadProgram ⟨[0xF3, 0x0A], none⟩, .execute]
        let pressed := (idle.answer (.press 5)).machine
        decide (machine.waiting = none) && decide (idle.waiting = some 3) &&
          decide (idle.keys = Vector.replicate 16 false) &&
          decide (pressed.waiting = some 3) && pressed.keys.get 5 &&
          decide (0 < pressed.config.instructionsPerTick) &&
          decide ((pressed.answer (.tick 0.5)).machine.waiting = none)).toOption = some true := by
    decide +kernel
  obtain ⟨machine, built, made⟩ := exists_ok_of_map made
  simp only [Bool.and_eq_true, decide_eq_true_eq] at made
  obtain ⟨⟨⟨⟨⟨⟨rested, asked⟩, quiet⟩, still⟩, down⟩, busy⟩, ended⟩ := made
  let idle := machine.afterAll [.loadProgram ⟨[0xF3, 0x0A], none⟩, .execute]
  let pressed := (idle.answer (.press 5)).machine
  have idleAttained : Attained Config.standard (Keystream.source 0) idle :=
    .answer (.answer (.built built) _ fun _ => rested) .execute nofun
  have pressedAttained : Attained Config.standard (Keystream.source 0) pressed :=
    .answer idleAttained _ nofun
  have up : idle.AllUp := by
    intro key
    rw [quiet]
    revert key
    decide
  have notUp : ¬ pressed.AllUp := fun up => Bool.false_ne_true ((up 5).symm.trans down)
  obtain ⟨protocol, ending⟩ := waits_until_key_down
  obtain ⟨word, resting, _⟩ := protocol Config.standard _ idle 3 idleAttained asked
  obtain ⟨_, _, waking, kept⟩ := protocol Config.standard _ pressed 3 pressedAttained still
  obtain ⟨key, lowest, ticked, _⟩ := waking notUp busy
  exact ⟨idle, pressed, idleAttained, pressedAttained, asked, still, word, up,
    (resting up [.tick 0.5, .frame] (by simp [Request.passesTime])).2, notUp,
    ⟨key, lowest, ticked 0.5⟩, kept .execute rfl, ended,
    (ending pressed _ (Option.isSome_iff_exists.mpr ⟨3, still⟩) ended).1⟩

end Machine

end Chip8

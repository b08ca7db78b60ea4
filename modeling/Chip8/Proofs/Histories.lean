import Chip8.Proofs.Fixtures
import Chip8.Proofs.Fonts
import Chip8.Proofs.Requests

/-!
# Histories

A machine lives through one request after another.  Each of them finds the machine
that the one before has left, whether that one failed or not.

Two descriptions cover every request.  A request that executes no instruction belongs
to one of five kinds, and its kind says which components it may change
(`Machine.touched_answer`).  A request that executes instructions is made of three
kinds of steps: time passes, a wait ends, an instruction is executed.  So a property
that survives these steps survives the request (`Lasting.answer`).
-/

namespace Chip8

/-! ## Kinds of requests -/

/-- What a request is about. -/
inductive Request.Kind where
  | storing
  | keying
  | moving
  | timing
  | marking
  | running
deriving DecidableEq

/-- The kind of a request. -/
def Request.kind : Request → Kind
  | .load .. | .loadFont .. | .loadProgram _ => .storing
  | .press _ | .release _ | .hold _ => .keying
  | .callAt _ | .returnToCall => .moving
  | .setDelay _ | .setSound _ => .timing
  | .addBreakpoint _ | .removeBreakpoint _ => .marking
  | .execute | .tick _ | .frame => .running

/-- Whether a request asks for another font. -/
def Request.loadsFont : Request → Bool
  | .loadFont .. => true
  | _ => false

namespace Machine

/-! ## Requests that execute no instruction -/

/-- What such a request may change, by its kind. -/
inductive Touched (machine : Machine) : Request.Kind → Machine → Prop where
  | stored (memory : Memory) (font : FontPlace) (size : memory.size = machine.memory.size) :
      Touched machine .storing { machine with memory, font }
  | keyed (keys : Keypad) : Touched machine .keying { machine with keys }
  | moved (calls : List UInt16) (pc : UInt16) : Touched machine .moving { machine with calls, pc }
  | timed (delay sound : UInt8) :
      Touched machine .timing
        { machine with delay := machine.delay.set delay, sound := machine.sound.set sound }
  | marked (breakpoints : Breakpoints) : Touched machine .marking { machine with breakpoints }

namespace Touched

variable {machine after : Machine} {kind : Request.Kind}

theorem config (touched : machine.Touched kind after) : after.config = machine.config := by
  cases touched <;> rfl

theorem waiting (touched : machine.Touched kind after) : after.waiting = machine.waiting := by
  cases touched <;> rfl

theorem calls (touched : machine.Touched kind after) (staying : kind ≠ .moving) :
    after.calls = machine.calls := by
  cases touched with
  | moved calls pc => exact absurd rfl staying
  | _ => rfl

theorem size (touched : machine.Touched kind after) :
    after.memory.size = machine.memory.size := by
  cases touched with
  | stored memory font size => exact size
  | _ => rfl

theorem font (touched : machine.Touched kind after) (staying : kind ≠ .storing) :
    after.font = machine.font := by
  cases touched with
  | stored memory font size => exact absurd rfl staying
  | _ => rfl

end Touched

theorem touched_load (machine : Machine) (address : Nat) (data : List UInt8) :
    machine.Touched .storing (Outcome.ofResult machine (machine.load address data)).machine := by
  by_cases within : address + data.length ≤ machine.memory.size
  · rw [load_of_within within]
    exact .stored _ machine.font (Memory.size_overwrite _ _ _)
  · rw [load_of_not_within within]
    exact .stored machine.memory machine.font rfl

theorem touched_loadFont (machine : Machine) (address : UInt16) (font : Font) :
    machine.Touched .storing
      (Outcome.ofResult machine (machine.loadFont address font)).machine := by
  by_cases within : address.toNat + font.extent ≤ machine.memory.size
  · rw [loadFont, Memory.writeFont, Span.check_of_within (by exact within)]
    exact .stored _ _ (Font.size_place _ _ _ _)
  · rw [loadFont, Memory.writeFont, Span.check_of_not_within (by exact within)]
    exact .stored machine.memory machine.font rfl

theorem touched_of_loadFont {machine after : Machine} {address : UInt16} {font : Font}
    (loaded : machine.loadFont address font = .ok after) : machine.Touched .storing after := by
  have touched := machine.touched_loadFont address font
  rwa [loaded] at touched

/-- A program leaves the machine as it is or as its bytes at the start address do. -/
theorem machine_loadProgram (machine : Machine) (source : ProgramSource) :
    (Outcome.ofResult machine ((machine.loadProgram source).map Prod.fst)).machine = machine ∨
      (Outcome.ofResult machine ((machine.loadProgram source).map Prod.fst)).machine =
        (Outcome.ofResult machine
          (machine.load machine.config.start.toNat source.bytes)).machine := by
  obtain ⟨bytes, _ | failure⟩ := source
  · by_cases large : machine.programLimit < bytes.length
    · rw [loadProgram, if_pos large]
      exact Or.inl rfl
    · rw [loadProgram, if_neg large]
      cases machine.load machine.config.start.toNat bytes with
      | ok after => exact Or.inr rfl
      | error fault => exact Or.inl rfl
  · exact Or.inl rfl

theorem touched_loadProgram (machine : Machine) (source : ProgramSource) :
    machine.Touched .storing
      (Outcome.ofResult machine ((machine.loadProgram source).map Prod.fst)).machine := by
  rcases machine.machine_loadProgram source with same | loaded
  · rw [same]
    exact .stored machine.memory machine.font rfl
  · rw [loaded]
    exact machine.touched_load _ _

theorem font_load (machine : Machine) (address : Nat) (data : List UInt8) :
    (Outcome.ofResult machine (machine.load address data)).machine.font = machine.font := by
  by_cases within : address + data.length ≤ machine.memory.size
  · rw [load_of_within within]
    rfl
  · rw [load_of_not_within within]
    rfl

theorem font_loadProgram (machine : Machine) (source : ProgramSource) :
    (Outcome.ofResult machine ((machine.loadProgram source).map Prod.fst)).machine.font =
      machine.font := by
  rcases machine.machine_loadProgram source with same | loaded
  · rw [same]
  · rw [loaded]
    exact machine.font_load _ _

theorem touched_setKey (machine : Machine) (number : UInt8) (down : Bool) :
    machine.Touched .keying (Outcome.ofResult machine (machine.setKey number down)).machine := by
  by_cases valid : number.toNat < 16
  · rw [setKey, key, dif_pos valid]
    exact .keyed _
  · rw [setKey, key, dif_neg valid]
    exact .keyed machine.keys

/-- A request that executes no instruction changes what its kind says at most. -/
theorem touched_answer {machine : Machine} {request : Request} (direct : request.runs = false) :
    machine.Touched request.kind (machine.answer request).machine := by
  cases request with
  | load address data => exact machine.touched_load address data
  | loadFont address font => exact machine.touched_loadFont address font
  | loadProgram source => exact machine.touched_loadProgram source
  | press number => exact machine.touched_setKey number true
  | release number => exact machine.touched_setKey number false
  | hold hold => exact .keyed hold.keypad
  | callAt target => exact .moved (machine.pc :: machine.calls) target
  | returnToCall =>
      cases called : machine.calls with
      | nil =>
          rw [answer, returnToCall, called]
          exact .moved machine.calls machine.pc
      | cons caller earlier =>
          rw [answer, returnToCall, called]
          exact .moved earlier caller
  | setDelay value => exact .timed value machine.sound.value
  | setSound value => exact .timed machine.delay.value value
  | addBreakpoint breakpoint => exact .marked (machine.breakpoints.insert breakpoint)
  | removeBreakpoint address => exact .marked (machine.breakpoints.erase address)
  | execute | tick _ | frame => cases direct

end Machine

/-! ## Requests that execute instructions -/

namespace Lasting

variable {holds : Machine → Prop} {machine : Machine}

theorem answer (lasting : Lasting holds) {request : Request} (running : request.runs = true)
    (now : holds machine) : holds (machine.answer request).machine := by
  cases request with
  | execute => exact lasting.executed machine now
  | tick dt => exact lasting.tick dt now
  | frame => exact lasting.ticks _ _ now
  | _ => cases running

end Lasting

namespace Machine

theorem sameFixtures_answer (machine : Machine) {request : Request}
    (running : request.runs = true) : machine.SameFixtures (machine.answer request).machine :=
  machine.lasting_sameFixtures.answer running (.refl machine)

/-- No request changes the configuration. -/
theorem config_answer (machine : Machine) (request : Request) :
    (machine.answer request).machine.config = machine.config := by
  cases running : request.runs with
  | true => exact (machine.sameFixtures_answer running).config
  | false => exact (touched_answer running).config

/-- No request but one for a font changes where the font lies. -/
theorem font_answer (machine : Machine) {request : Request} (other : request.loadsFont = false) :
    (machine.answer request).machine.font = machine.font := by
  cases running : request.runs with
  | true => exact (machine.sameFixtures_answer running).font
  | false =>
      cases request with
      | load address data => exact machine.font_load address data
      | loadFont address font => cases other
      | loadProgram source => exact machine.font_loadProgram source
      | _ => exact (touched_answer running).font nofun

/-! ## Machines that were built -/

/-- The machine of a configuration before it gets its font. -/
def unloaded (config : Config) (source : RandomSource) (screen : Screen) : Machine :=
  { config, screen
    memory := Memory.blank config.memorySize
    pc := config.start
    index := 0
    registers := Vector.replicate 16 0
    calls := []
    delay := Countdown.ofRate Countdown.defaultRate
    sound := Countdown.ofRate Countdown.defaultRate
    keys := Vector.replicate 16 false
    waiting := none
    font := { address := 0, stride := 0 }
    generator := source.generator config.seed
    breakpoints := Breakpoints.empty
    unhandled := false }

theorem build_eq_loadFont (config : Config) (source : RandomSource) :
    build config source = (do
      let screen ← Screen.blank config.width config.height config.wraps
      (unloaded config source screen).loadFont config.fontStart Font.hexadecimal) :=
  rfl

/-- The font is all that a machine which was built has in addition. -/
theorem exists_unloaded_of_build {config : Config} {source : RandomSource} {machine : Machine}
    (built : build config source = .ok machine) :
    ∃ screen memory font, machine = { unloaded config source screen with memory, font } := by
  rw [build_eq_loadFont, Screen.blank] at built
  split at built
  · obtain ⟨_, loaded⟩ := loadFont_eq_ok_iff.mp built
    exact ⟨_, _, _, loaded⟩
  · cases built

/-- The machine has the shape of its configuration, and its program is about to start. -/
structure AtRest (config : Config) (machine : Machine) : Prop where
  shape : machine.config = config
  size : machine.memory.size = config.memorySize
  width : machine.screen.width = config.width
  height : machine.screen.height = config.height
  stride : machine.font.stride ≤ machine.memory.size
  pc : machine.pc = config.start
  calls : machine.calls = []
  waiting : machine.waiting = none

/-- A font that was loaded lies in memory, so its stride is no more than the memory. -/
theorem stride_le_of_loadFont {machine after : Machine} {address : UInt16} {font : Font}
    (loaded : machine.loadFont address font = .ok after) :
    after.font.stride ≤ after.memory.size := by
  obtain ⟨fits, rfl⟩ := loadFont_eq_ok_iff.mp loaded
  have tall := font.stride_le_extent
  show font.stride ≤ (font.place machine.memory.bytes address.toNat font.stride).size
  rw [Font.size_place]
  rw [Memory.size] at fits
  omega

theorem atRest_of_build {config : Config} {source : RandomSource} {machine : Machine}
    (built : build config source = .ok machine) : machine.AtRest config := by
  rw [build, Screen.blank] at built
  split at built
  · have stride := stride_le_of_loadFont built
    obtain ⟨fits, rfl⟩ := loadFont_eq_ok_iff.mp built
    refine ⟨rfl, ?_, rfl, rfl, stride, rfl, rfl, rfl⟩
    rw [Memory.size, Font.size_place]
    exact Memory.size_blank _
  · cases built

/-! ## One request after another -/

/-- The machine behind the requests. -/
def afterAll (machine : Machine) (requests : List Request) : Machine :=
  requests.foldl (fun machine request => (machine.answer request).machine) machine

/-- The faults of the requests. -/
def faults (machine : Machine) : List Request → List Fault
  | [] => []
  | request :: rest =>
      (machine.answer request).fault?.toList ++ (machine.answer request).machine.faults rest

@[simp]
theorem afterAll_nil (machine : Machine) : machine.afterAll [] = machine := rfl

@[simp]
theorem afterAll_cons (machine : Machine) (request : Request) (rest : List Request) :
    machine.afterAll (request :: rest) = (machine.answer request).machine.afterAll rest := rfl

theorem afterAll_append (machine : Machine) (first second : List Request) :
    machine.afterAll (first ++ second) = (machine.afterAll first).afterAll second :=
  List.foldl_append

theorem config_afterAll (machine : Machine) (requests : List Request) :
    (machine.afterAll requests).config = machine.config := by
  induction requests generalizing machine with
  | nil => rfl
  | cons request rest induction =>
      rw [afterAll_cons, induction, config_answer]

end Machine

end Chip8

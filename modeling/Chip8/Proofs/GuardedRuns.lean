import Chip8.Console.Keystream
import Chip8.Machine.Snapshot
import Chip8.Proofs.Deeds
import Chip8.Proofs.GuardedSteps

/-!
# Histories under guards

A configuration is roomy if its screen, its memory and its pace are below certain sizes.
A machine that was built for a roomy configuration keeps the shape that it was built with
and never gets a font whose stride exceeds the memory.  So it stays roomy, whatever is
asked of it.  It follows that no guard fails in any history: every request is answered
under guards as it is without them (`Machine.guards_hold`).
-/

namespace Chip8

/-- The screen has few enough pixels for one array, a font that lies in memory has glyphs
whose addresses a word holds, and a word holds the number of ticks in a second. -/
structure Config.Roomy (config : Config) : Prop where
  area : config.width * config.height < 0x8000000000000000
  memory : config.memorySize < 0x80000000000000
  pace : config.ticksPerFrame * config.framesPerSecond < 0x10000000000000000

namespace Guarded

/-! ## Requests -/

/-- Put a key down or up. -/
def setKey (machine : Machine) (number : UInt8) (down : Bool) : Guarded Machine := do
  let key ← ofResult (Machine.key number)
  return { machine with keys := ← assign machine.keys key down }

/-- The machine with exactly the held keys down. -/
def holdOn (hold : KeyHold) (machine : Machine) : Option Machine := do
  return { machine with keys := ← assignAll machine.keys 0 (hold.remaining.toList.map (0 < ·)) }

/-- Write a font into memory and look up glyphs there from now on. -/
def loadFont (machine : Machine) (address : UInt16) (font : Font) : Guarded Machine := do
  return { machine with
    memory := ← writeFont machine.memory address.toNat font
    font := { address, stride := font.stride } }

/-- Write a program at the start address. -/
def loadProgram (machine : Machine) (source : Machine.ProgramSource) : Guarded Machine :=
  match source.failure with
  | some failure => ofResult (.error (.unreadable failure))
  | none =>
      if machine.programLimit < source.bytes.length then
        ofResult (.error (.oversizedProgram source.bytes.length machine.programLimit))
      else load machine machine.config.start.toNat source.bytes

/-- The machine without its wait, unless it waits and no key is down. -/
def awaken (machine : Machine) : Option (Option Machine) :=
  match machine.waiting with
  | none => some (some machine)
  | some x =>
      match machine.lowestKey? with
      | none => some none
      | some key => do
          let awake ← setRegister { machine with waiting := none } x (UInt8.ofNat key)
          return some awake.next

/-- Execute up to a number of instructions. -/
def burst : Nat → Machine → Option Outcome
  | 0, machine => some ⟨machine, none⟩
  | count + 1, machine => do
      match ← awaken machine with
      | none => return ⟨machine, none⟩
      | some awake =>
          match ← execute awake with
          | ⟨after, none⟩ => burst count after
          | ⟨after, some fault⟩ => return ⟨after, some fault⟩

/-- Let `dt` seconds pass and execute the instructions of one tick. -/
def tick (machine : Machine) (dt : Float) : Option Outcome :=
  burst machine.config.instructionsPerTick (machine.advanceTimers dt)

/-- Up to a number of ticks of equal length. -/
def ticks (dt : Float) : Nat → Machine → Option Outcome
  | 0, machine => some ⟨machine, none⟩
  | count + 1, machine => do
      match ← tick machine dt with
      | ⟨after, none⟩ => ticks dt count after
      | ⟨after, some fault⟩ => return ⟨after, some fault⟩

/-- The seconds that one tick takes. -/
def tickSeconds (config : Config) : Option Float := do
  let ticksPerSecond ← fit sizes (config.ticksPerFrame * config.framesPerSecond)
  return 1.0 / (max ticksPerSecond 1).toUInt64.toFloat

/-- The outcome of an operation that gives back a machine or a fault. -/
def outcome (before : Machine) (result : Guarded Machine) : Option Outcome :=
  result.run.map (Outcome.ofResult before)

/-- The answer to a request. -/
def answer (machine : Machine) : Request → Option Outcome
  | .load address data => outcome machine (load machine address data)
  | .loadFont address font => outcome machine (loadFont machine address font)
  | .loadProgram source => outcome machine (loadProgram machine source)
  | .press number => outcome machine (setKey machine number true)
  | .release number => outcome machine (setKey machine number false)
  | .hold hold => do return ⟨← holdOn hold machine, none⟩
  | .callAt target => some ⟨machine.callAt target, none⟩
  | .returnToCall => some (.ofResult machine machine.returnToCall)
  | .setDelay value => some ⟨machine.setDelay value, none⟩
  | .setSound value => some ⟨machine.setSound value, none⟩
  | .addBreakpoint breakpoint => some ⟨machine.addBreakpoint breakpoint, none⟩
  | .removeBreakpoint address => some ⟨machine.removeBreakpoint address, none⟩
  | .execute => execute machine
  | .tick dt => tick machine dt
  | .frame => do ticks (← tickSeconds machine.config) machine.config.ticksPerFrame machine

/-- A machine of the given shape with the hexadecimal digits as its font. -/
def build (config : Config) (source : RandomSource) : Guarded Machine := do
  let screen ← blank config.width config.height config.wraps
  demand (config.memorySize < allocatable)
  loadFont (Machine.unloaded config source screen) config.fontStart Font.hexadecimal

/-- What a debugger shows of the machine. -/
def snapshot (machine : Machine) : Option Snapshot := do
  let fetched ← (word machine.memory machine.pc.toNat).run
  return { machine.snapshot with nextWord := (fetched.toOption).getD 0 }

/-! ## Direct requests -/

theorem setKey_eq (machine : Machine) (number : UInt8) (down : Bool) :
    setKey machine number down = ofResult (machine.setKey number down) := by
  rw [setKey, Machine.setKey]
  cases Machine.key number with
  | error fault => rfl
  | ok key =>
      rw [bind_ok, assign_eq]
      rfl

/-- Consecutive entries from a number on come from the list, the others stay. -/
theorem assignAll_eq_some {α : Type} (entries : Vector α 16) {number : Nat} {values : List α}
    (fits : number + values.length ≤ 16) :
    ∃ after, assignAll entries number values = some after ∧ ∀ i (bound : i < 16),
      after[i] = if i < number then entries[i] else values[i - number]?.getD entries[i] := by
  induction values generalizing entries number with
  | nil => exact ⟨entries, rfl, fun i bound => by simp⟩
  | cons value rest induction =>
      rw [List.length_cons] at fits
      have further : number + 1 + rest.length ≤ 16 := by omega
      obtain ⟨after, assigned, entry⟩ := induction (entries.setIfInBounds number value) further
      refine ⟨after, ?_, fun i bound => ?_⟩
      · rw [assignAll, assign, demand_of (by omega)]
        exact assigned
      · rw [entry i bound, Vector.getElem_setIfInBounds]
        by_cases front : number = i
        · subst front
          simp
        · rw [if_neg front]
          by_cases before : i < number
          · rw [if_pos before, if_pos (by omega)]
          · have shift : i - number = i - (number + 1) + 1 := by omega
            rw [if_neg before, if_neg (by omega), shift, List.getElem?_cons_succ]

theorem holdOn_eq (hold : KeyHold) (machine : Machine) :
    holdOn hold machine = some (hold.holdOn machine) := by
  let down := hold.remaining.toList.map fun left => decide (0 < left)
  have fits : 0 + down.length ≤ 16 := by simp [down]
  obtain ⟨keys, assigned, entry⟩ := assignAll_eq_some machine.keys fits
  have same : keys = hold.keypad := by
    apply Vector.ext
    intro i bound
    rw [entry i bound, if_neg (Nat.not_lt_zero i), Nat.sub_zero]
    simp [down, KeyHold.keypad, bound]
  rw [holdOn, assigned, same]
  rfl

theorem loadFont_eq (machine : Machine) (address : UInt16) (font : Font) :
    loadFont machine address font = ofResult (machine.loadFont address font) := by
  rw [loadFont, writeFont_eq, Machine.loadFont]
  cases machine.memory.writeFont address.toNat font <;> rfl

theorem loadProgram_eq (machine : Machine) (source : Machine.ProgramSource) :
    loadProgram machine source = ofResult ((machine.loadProgram source).map Prod.fst) := by
  obtain ⟨bytes, _ | failure⟩ := source
  · simp only [loadProgram, Machine.loadProgram]
    split
    · rfl
    · rw [load_eq]
      cases machine.load machine.config.start.toNat bytes <;> rfl
  · rfl

theorem snapshot_eq (machine : Machine) : snapshot machine = some machine.snapshot := by
  rw [snapshot, word_eq, Machine.snapshot]
  cases machine.memory.word machine.pc.toNat <;> rfl

end Guarded

namespace Machine

/-! ## The shape of a machine -/

/-- The machine has the sizes of its configuration, and the stride of its font is no more
than its memory. -/
structure Fitted (config : Config) (machine : Machine) : Prop where
  shape : machine.config = config
  size : machine.memory.size = config.memorySize
  width : machine.screen.width = config.width
  height : machine.screen.height = config.height
  stride : machine.font.stride ≤ config.memorySize

variable {config : Config} {machine after : Machine}

theorem fitted_of_atRest (atRest : machine.AtRest config) : machine.Fitted config :=
  ⟨atRest.shape, atRest.size, atRest.width, atRest.height, atRest.size ▸ atRest.stride⟩

namespace Fitted

theorem pixels (fitted : machine.Fitted config) :
    machine.screen.pixels.size = config.width * config.height := by
  rw [Screen.size_pixels, fitted.width, fitted.height]

/-- A machine of a roomy configuration is roomy. -/
theorem roomy (fitted : machine.Fitted config) (roomy : config.Roomy) : machine.Roomy where
  pixels := by
    have area := roomy.area
    rw [fitted.pixels, Guarded.sizes]
    omega
  stride := Nat.lt_of_le_of_lt fitted.stride roomy.memory

theorem of_sameFixtures (fitted : machine.Fitted config) (same : machine.SameFixtures after) :
    after.Fitted config where
  shape := same.config.trans fitted.shape
  size := same.size.trans fitted.size
  width := same.shape.width.trans fitted.width
  height := same.shape.height.trans fitted.height
  stride := by
    rw [same.font]
    exact fitted.stride

theorem of_touched {kind : Request.Kind} (fitted : machine.Fitted config)
    (touched : machine.Touched kind after) (stride : after.font.stride ≤ config.memorySize) :
    after.Fitted config := by
  cases touched with
  | stored memory font size =>
      exact ⟨fitted.shape, size.trans fitted.size, fitted.width, fitted.height, stride⟩
  | _ => exact ⟨fitted.shape, fitted.size, fitted.width, fitted.height, stride⟩

end Fitted

theorem lasting_fitted (config : Config) : Lasting (Fitted config) where
  advanced _ _ fitted := ⟨fitted.shape, fitted.size, fitted.width, fitted.height, fitted.stride⟩
  awoken _ _ fitted awoken := fitted.of_sameFixtures (sameFixtures_awaken awoken)
  executed machine fitted := fitted.of_sameFixtures machine.sameFixtures_execute

theorem Fitted.answer_direct {request : Request} (fitted : machine.Fitted config)
    (direct : request.runs = false) : (machine.answer request).machine.Fitted config := by
  refine fitted.of_touched (touched_answer direct) ?_
  cases asked : request.loadsFont with
  | false =>
      rw [machine.font_answer asked]
      exact fitted.stride
  | true =>
      cases request with
      | loadFont address font =>
          cases loaded : machine.loadFont address font with
          | ok after =>
              have kept := (touched_of_loadFont loaded).size
              have stride := stride_le_of_loadFont loaded
              rw [kept, fitted.size] at stride
              rw [answer, loaded]
              exact stride
          | error fault =>
              rw [answer, loaded]
              exact fitted.stride
      | _ => cases asked

/-! ## Bounds -/

/-- The bounds that keep the partial steps on a machine within range. -/
structure Bounds (config : Config) (machine : Machine) : Prop where
  pixels : machine.screen.pixels.size = config.width * config.height
  index : ∀ x y column row, machine.screen.locate? x y = some (column, row) →
    row * machine.screen.width + column < machine.screen.pixels.size
  waiting : ∀ x, machine.waiting = some x → x.val < machine.registers.toArray.size
  stride : machine.font.stride ≤ config.memorySize
  target : ∀ base : Fin 4096, base + (machine.register 0).toNat < 0x10000
  glyph : ∀ x, machine.font.address.toNat + (machine.register x).toNat * machine.font.stride <
    0x10000000000000000
  cell : ∀ x offset, offset < 16 → (machine.register x).toNat + offset < 0x10000000000000000

theorem Fitted.bounds (fitted : machine.Fitted config) (roomy : config.Roomy) :
    machine.Bounds config where
  pixels := fitted.pixels
  index x y column row located :=
    Screen.index_lt ((machine.screen.locate?_eq_some_iff x y column row).mp located).1
  waiting x _ := by
    rw [Vector.size_toArray]
    exact x.isLt
  stride := fitted.stride
  target base := by
    have below := base.isLt
    have offset := (machine.register 0).toNat_lt
    omega
  glyph x := by
    have address := machine.font.address.toNat_lt
    have value := (machine.register x).toNat_lt
    have memory := roomy.memory
    have stride := fitted.stride
    have offset : (machine.register x).toNat * machine.font.stride ≤ 255 * 0x80000000000000 :=
      Nat.mul_le_mul (by omega) (by omega)
    omega
  cell x offset small := by
    have value := (machine.register x).toNat_lt
    omega

end Machine

namespace Guarded

/-! ## Running under guards -/

variable {config : Config} {machine : Machine}

theorem awaken_eq (machine : Machine) : awaken machine = some machine.awaken? := by
  rw [awaken, Machine.awaken?]
  cases machine.waiting with
  | none => rfl
  | some x =>
      cases machine.lowestKey? with
      | none => rfl
      | some key =>
          simp only [setRegister_eq]
          rfl

theorem burst_eq (roomy : config.Roomy) (fitted : machine.Fitted config) (count : Nat) :
    burst count machine = some (Machine.burst count machine) := by
  induction count generalizing machine with
  | zero => rfl
  | succ count induction =>
      have lasting := Machine.lasting_fitted config
      rw [burst, Machine.burst, awaken_eq]
      cases awoken : machine.awaken? with
      | none => rfl
      | some awake =>
          -- the shape is kept, so the next instruction finds a roomy machine again
          have started := lasting.awoken machine awake fitted awoken
          have later := lasting.executed awake started
          simp only [execute_eq (started.roomy roomy), Option.bind_eq_bind, Option.bind_some]
          rcases ended : awake.execute with ⟨after, _ | fault⟩
          · rw [ended] at later
            exact induction later
          · rfl

theorem tick_eq (roomy : config.Roomy) (fitted : machine.Fitted config) (dt : Float) :
    tick machine dt = some (machine.tick dt) :=
  burst_eq roomy ((Machine.lasting_fitted config).advanced machine dt fitted) _

theorem ticks_eq (roomy : config.Roomy) (fitted : machine.Fitted config) (dt : Float)
    (count : Nat) : ticks dt count machine = some (Machine.ticks dt count machine) := by
  induction count generalizing machine with
  | zero => rfl
  | succ count induction =>
      have later := (Machine.lasting_fitted config).tick dt fitted
      rw [ticks, Machine.ticks, tick_eq roomy fitted]
      rcases ended : machine.tick dt with ⟨after, _ | fault⟩
      · rw [ended] at later
        exact induction later
      · rfl

theorem tickSeconds_eq (roomy : config.Roomy) : tickSeconds config = some config.tickSeconds := by
  have fits : config.ticksPerFrame * config.framesPerSecond < sizes := roomy.pace
  rw [tickSeconds, fit_of_lt fits, Config.tickSeconds, Config.ticksPerSecond,
    Nat.mod_eq_of_lt roomy.pace]
  rfl

/-- On a machine with the shape of a roomy configuration no guard of a request fails. -/
theorem answer_eq (roomy : config.Roomy) (fitted : machine.Fitted config) (request : Request) :
    answer machine request = some (machine.answer request) := by
  cases request with
  | load address data =>
      rw [answer, load_eq]
      rfl
  | loadFont address font =>
      rw [answer, loadFont_eq]
      rfl
  | loadProgram source =>
      rw [answer, loadProgram_eq]
      rfl
  | press number | release number =>
      rw [answer, setKey_eq]
      rfl
  | hold hold =>
      rw [answer, holdOn_eq]
      rfl
  | execute => exact execute_eq (fitted.roomy roomy)
  | tick dt => exact tick_eq roomy fitted dt
  | frame =>
      rw [answer, fitted.shape, tickSeconds_eq roomy, Machine.answer, Machine.frame, fitted.shape]
      exact ticks_eq roomy fitted _ _
  | _ => rfl

/-- A machine is built under guards as it is without them. -/
theorem build_eq (roomy : config.Roomy) (source : RandomSource) :
    build config source = ofResult (Machine.build config source) := by
  have room : config.memorySize < allocatable := Nat.lt_trans roomy.memory (by decide)
  rw [build, blank_eq config.wraps roomy.area, demand_of room, Machine.build_eq_loadFont]
  cases Screen.blank config.width config.height config.wraps with
  | error fault => rfl
  | ok screen => exact loadFont_eq _ _ _

end Guarded

namespace Machine

/-- A machine that was built for a roomy configuration stays within the bounds of its
partial steps, wherever a history does something and at its end.  There every request is
answered under guards as it is without them, and so are the questions of a debugger and
of a display. -/
theorem guards_hold (config : Config) (source : RandomSource) (roomy : config.Roomy)
    (booted : Machine) (built : build config source = .ok booted) (requests : List Request) :
    Guarded.build config source = Guarded.ofResult (.ok booted) ∧
    (booted.afterAll requests).Bounds config ∧
    (∀ start, Deed.executed start ∈ booted.deedsAll requests → start.Bounds config) ∧
    (∀ request, Guarded.answer (booted.afterAll requests) request =
      some ((booted.afterAll requests).answer request)) ∧
    Guarded.snapshot (booted.afterAll requests) = some (booted.afterAll requests).snapshot ∧
    ∀ x y, Guarded.pixel (booted.afterAll requests).screen x y =
      some ((booted.afterAll requests).screen.pixel x y) := by
  have started : booted.Fitted config := fitted_of_atRest (atRest_of_build built)
  have direct : ∀ request ∈ requests, request.runs = false →
      ∀ machine : Machine, machine.Fitted config → (machine.answer request).machine.Fitted config :=
    fun request _ direct machine fitted => fitted.answer_direct direct
  obtain ⟨last, below⟩ := (lasting_fitted config).by_of_mem_deedsAll direct started
  refine ⟨?_, last.bounds roomy, fun start done => ?_, Guarded.answer_eq roomy last,
    Guarded.snapshot_eq _, Guarded.pixel_eq (last.roomy roomy).pixels⟩
  · rw [Guarded.build_eq roomy, built]
  · have fitted : start.Fitted config := below _ done
    exact fitted.bounds roomy

/-- A sprite at the lower right corner takes its rows from a font with glyphs of unequal
heights, and most of its cells leave the screen. -/
theorem clipped_glyph_guarded :
    ∃ booted : Machine, ∃ requests : List Request,
      boot Config.standard 0 = .ok booted ∧
      requests = [.loadFont 0x300 [[0x80], [0xFF, 0x81, 0xFF]],
        .loadProgram ⟨[0x60, 0x01, 0x61, 0x3E, 0x62, 0x1F, 0xF0, 0x29, 0xD1, 0x23], none⟩,
        .execute, .execute, .execute, .execute] ∧
      (booted.afterAll requests).index = 0x303 ∧
      (booted.afterAll requests).execute.machine.screen.pixel 63 31 = true ∧
      (booted.afterAll requests).Bounds Config.standard ∧
      Guarded.answer (booted.afterAll requests) .execute =
        some (booted.afterAll requests).execute := by
  let requests : List Request :=
    [.loadFont 0x300 [[0x80], [0xFF, 0x81, 0xFF]],
      .loadProgram ⟨[0x60, 0x01, 0x61, 0x3E, 0x62, 0x1F, 0xF0, 0x29, 0xD1, 0x23], none⟩,
      .execute, .execute, .execute, .execute]
  have made :
      ((boot Config.standard 0).map fun booted =>
        decide ((booted.afterAll requests).index = 0x303) &&
          (booted.afterAll requests).execute.machine.screen.pixel 63 31).toOption = some true := by
    decide +kernel
  obtain ⟨booted, built, made⟩ := exists_ok_of_map made
  simp only [Bool.and_eq_true, decide_eq_true_eq] at made
  obtain ⟨_, bounds, _, answers, _⟩ := guards_hold Config.standard _
    ⟨by decide, by decide, by decide⟩ booted built requests
  exact ⟨booted, requests, built, rfl, made.1, made.2, bounds, answers .execute⟩

end Machine

end Chip8

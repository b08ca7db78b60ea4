import Chip8.Console.Session
import Chip8.Proofs.InstructionTable

/-!
# Fixtures

A program cannot reach everything in its machine.  The configuration, the size of
the memory, the shape of the screen, the keys, the place of the font and the
breakpoints are fixtures: no instruction changes them.  Every row of the table of
instructions keeps them, so executions do.

A tick is made of three kinds of steps: time passes, a wait ends, an instruction is
executed.  What survives each of them survives ticks and frames (`Lasting.ticks`), and
fixtures do.
-/

namespace Chip8

/-! ## The steps of a tick -/

/-- A machine that did not wait is awake as it is, and one that did goes on without the
wait, at another place and with a key in a register. -/
theorem Machine.awoken_eq {machine awake : Machine} (awoken : machine.awaken? = some awake) :
    awake = machine ∨
      ∃ registers pc, awake = { machine with registers, pc, waiting := none } := by
  rw [awaken?] at awoken
  cases waiting : machine.waiting with
  | none =>
      rw [waiting] at awoken
      exact Or.inl (Option.some.inj awoken).symm
  | some x =>
      rw [waiting] at awoken
      obtain ⟨key, _, rfl⟩ := Option.map_eq_some_iff.mp awoken
      exact Or.inr ⟨_, _, rfl⟩

/-- The property survives every step that a tick is made of. -/
structure Lasting (holds : Machine → Prop) : Prop where
  advanced : ∀ machine dt, holds machine → holds (machine.advanceTimers dt)
  awoken : ∀ machine awake, holds machine → machine.awaken? = some awake → holds awake
  executed : ∀ machine, holds machine → holds machine.execute.machine

namespace Lasting

variable {holds : Machine → Prop} {machine : Machine}

theorem burst (lasting : Lasting holds) (count : Nat) (now : holds machine) :
    holds (Machine.burst count machine).machine := by
  induction count generalizing machine with
  | zero => exact now
  | succ count induction =>
      rw [Machine.burst]
      cases awoken : machine.awaken? with
      | none => exact now
      | some awake =>
          have later := lasting.executed awake (lasting.awoken machine awake now awoken)
          rcases ended : awake.execute with ⟨next, _ | fault⟩
          · rw [ended] at later
            simp only [ended]
            exact induction later
          · rw [ended] at later
            simp only [ended]
            exact later

theorem tick (lasting : Lasting holds) (dt : Float) (now : holds machine) :
    holds (machine.tick dt).machine :=
  lasting.burst _ (lasting.advanced machine dt now)

theorem ticks (lasting : Lasting holds) (dt : Float) (count : Nat) (now : holds machine) :
    holds (Machine.ticks dt count machine).machine := by
  induction count generalizing machine with
  | zero => exact now
  | succ count induction =>
      have later := lasting.tick dt now
      rw [Machine.ticks]
      rcases ended : machine.tick dt with ⟨next, _ | fault⟩
      · rw [ended] at later
        exact induction later
      · rw [ended] at later
        exact later

end Lasting

/-! ## Fixtures -/

namespace Machine

/-- The components that no instruction changes are the same. -/
structure SameFixtures (before after : Machine) : Prop where
  config : after.config = before.config
  size : after.memory.size = before.memory.size
  shape : before.screen.SameShape after.screen
  keys : after.keys = before.keys
  font : after.font = before.font
  breakpoints : after.breakpoints = before.breakpoints

variable {machine before between after : Machine}

namespace SameFixtures

theorem refl (machine : Machine) : machine.SameFixtures machine :=
  ⟨rfl, rfl, .refl _, rfl, rfl, rfl⟩

theorem trans (first : before.SameFixtures between) (second : between.SameFixtures after) :
    before.SameFixtures after where
  config := second.config.trans first.config
  size := second.size.trans first.size
  shape := first.shape.trans second.shape
  keys := second.keys.trans first.keys
  font := second.font.trans first.font
  breakpoints := second.breakpoints.trans first.breakpoints

end SameFixtures

/-! ## Executions -/

theorem sameFixtures_of_row {word : UInt16} (row : Row machine word after) :
    machine.SameFixtures after := by
  cases row with
  | clearScreen screen number shape dark => exact ⟨rfl, rfl, shape, rfl, rfl, rfl⟩
  | storeDecimal x memory number stored => exact ⟨rfl, stored.size, .refl _, rfl, rfl, rfl⟩
  | storeRegisters x memory number stored => exact ⟨rfl, stored.size, .refl _, rfl, rfl, rfl⟩
  | draw x y n screen collision number within shape pixels collides =>
      exact ⟨rfl, rfl, shape, rfl, rfl, rfl⟩
  | _ => exact ⟨rfl, rfl, .refl _, rfl, rfl, rfl⟩

theorem sameFixtures_execute (machine : Machine) :
    machine.SameFixtures machine.execute.machine := by
  rw [execute]
  cases stepped : machine.step with
  | ok after =>
      obtain ⟨word, held, row⟩ := step_eq_ok_iff.mp stepped
      have kept := sameFixtures_of_row row
      exact ⟨kept.config, kept.size, kept.shape, kept.keys, kept.font, kept.breakpoints⟩
  | error fault => exact ⟨rfl, rfl, .refl _, rfl, rfl, rfl⟩

/-! ## Ticks and frames -/

theorem sameFixtures_awaken (awoken : machine.awaken? = some after) :
    machine.SameFixtures after := by
  rcases awoken_eq awoken with rfl | ⟨registers, pc, rfl⟩
  · exact .refl _
  · exact ⟨rfl, rfl, .refl _, rfl, rfl, rfl⟩

/-- The fixtures of a machine last. -/
theorem lasting_sameFixtures (machine : Machine) : Lasting machine.SameFixtures where
  advanced _ _ kept := kept.trans ⟨rfl, rfl, .refl _, rfl, rfl, rfl⟩
  awoken _ _ kept awoken := kept.trans (sameFixtures_awaken awoken)
  executed between kept := kept.trans between.sameFixtures_execute

theorem sameFixtures_tick (machine : Machine) (dt : Float) :
    machine.SameFixtures (machine.tick dt).machine :=
  machine.lasting_sameFixtures.tick dt (.refl machine)

theorem sameFixtures_ticks (dt : Float) (count : Nat) (machine : Machine) :
    machine.SameFixtures (ticks dt count machine).machine :=
  machine.lasting_sameFixtures.ticks dt count (.refl machine)

end Machine

/-! ## Frames with breakpoints -/

namespace Stretch

theorem sameFixtures_of_further {dt : Float} {count : Nat} {machine after : Machine}
    (finished : further dt count machine = .finished after) : machine.SameFixtures after := by
  induction count generalizing machine with
  | zero =>
      cases finished
      exact .refl _
  | succ count induction =>
      rw [further] at finished
      split at finished
      · cases finished
      · have ticked := machine.sameFixtures_tick dt
        rcases ended : machine.tick dt with ⟨next, _ | fault⟩
        · simp only [ended] at finished ticked
          exact ticked.trans (induction finished)
        · simp only [ended] at finished
          cases finished

theorem sameFixtures_of_ofTicks {dt : Float} {count : Nat} {machine after : Machine}
    (finished : ofTicks dt count machine = .finished after) : machine.SameFixtures after := by
  cases count with
  | zero =>
      cases finished
      exact .refl _
  | succ count =>
      have ticked := machine.sameFixtures_tick dt
      rw [ofTicks] at finished
      rcases ended : machine.tick dt with ⟨next, _ | fault⟩
      · simp only [ended] at finished ticked
        exact ticked.trans (sameFixtures_of_further finished)
      · simp only [ended] at finished
        cases finished

end Stretch

end Chip8

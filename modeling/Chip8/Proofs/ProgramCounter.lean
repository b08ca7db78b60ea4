import Chip8.Proofs.Deeds
import Chip8.Proofs.Subroutines

/-!
# The reach of the program counter

The program counter has sixteen bits and wraps, but in a memory that ends well below
the last address it never does.  An instruction is executed only if both its bytes are
in memory, so a program leaves memory by one instruction at most: by the skip at its
end, or by a jump with an offset.  Outside memory nothing can be executed.

A wait can carry the program counter two bytes further.  A user may execute a jump or a
skip while the machine waits, and the wait then ends behind the place that it led to.
So the bound for a waiting machine is two bytes lower than the one for all machines.

The open calls are addresses of executed instructions, and a return goes on behind one
of them, which is still inside memory.
-/

namespace Chip8

/-! ## Where an operation goes on -/

namespace Operation

/-- Where an operation puts the program counter before that moves on. -/
def landing (machine : Machine) : Operation → Nat
  | .endSubroutine => (machine.calls.headD 0).toNat
  | .jump target => target
  | .call target => target
  | .jumpOffset base => base + (machine.register 0).toNat
  | _ => machine.pc.toNat

/-- How far the program counter moves on from there. -/
def advance (machine : Machine) : Operation → Nat
  | .jump _ => 0
  | .call _ => 0
  | .jumpOffset _ => 0
  | .awaitKey _ => 0
  | .skipIfByte x kk => if machine.register x = kk then 4 else 2
  | .skipUnlessByte x kk => if machine.register x ≠ kk then 4 else 2
  | .skipIfEqual x y => if machine.register x = machine.register y then 4 else 2
  | .skipUnlessEqual x y => if machine.register x ≠ machine.register y then 4 else 2
  | .skipIfKey x => if machine.isDown (machine.register x) = .ok true then 4 else 2
  | .skipUnlessKey x => if machine.isDown (machine.register x) = .ok true then 2 else 4
  | _ => 2

end Operation

namespace Machine

variable {machine after awake : Machine} {config : Config} {request : Request}

theorem pc_add_eq_ofNat (pc : UInt16) (distance : Nat) :
    pc + UInt16.ofNat distance = UInt16.ofNat (pc.toNat + distance) := by
  apply UInt16.toNat_inj.mp
  rw [UInt16.toNat_add, UInt16.toNat_ofNat', UInt16.toNat_ofNat', Nat.add_mod_mod]

theorem isDown_eq_true_iff {x : Register} {key : Nibble}
    (named : (machine.register x).toNat = key) :
    machine.isDown (machine.register x) = .ok true ↔ machine.keys.get key = true := by
  have valid : (machine.register x).toNat < 16 := named ▸ key.isLt
  have same : key = ⟨(machine.register x).toNat, valid⟩ := Fin.ext named.symm
  rw [isDown_of_lt valid, ← same, Except.ok.injEq]

/-- Every row of the table goes on where its operation does. -/
theorem pc_of_row {word : UInt16} (row : Row machine word after) :
    ∃ operation : Operation, word.toNat = operation.code ∧
      after.pc = UInt16.ofNat (operation.landing machine + operation.advance machine) := by
  have behind : machine.pc + 2 = UInt16.ofNat (machine.pc.toNat + 2) := pc_add_eq_ofNat _ 2
  have beyond : machine.pc + 4 = UInt16.ofNat (machine.pc.toNat + 4) := pc_add_eq_ofNat _ 4
  cases row with
  | clearScreen screen number shape dark => exact ⟨.clearScreen, number, behind⟩
  | endSubroutine caller earlier number called =>
      refine ⟨.endSubroutine, number, ?_⟩
      rw [Operation.landing, called]
      exact pc_add_eq_ofNat caller 2
  | jump nnn number => exact ⟨.jump nnn, number, rfl⟩
  | call nnn number => exact ⟨.call nnn, number, rfl⟩
  | setIndex nnn number => exact ⟨.setIndex nnn, number, behind⟩
  | jumpOffset nnn number => exact ⟨.jumpOffset nnn, number, rfl⟩
  | skipIfByte x kk number =>
      refine ⟨.skipIfByte x kk, number, ?_⟩
      simp only [Operation.landing, Operation.advance]
      split
      · exact beyond
      · exact behind
  | skipUnlessByte x kk number =>
      refine ⟨.skipUnlessByte x kk, number, ?_⟩
      simp only [Operation.landing, Operation.advance]
      split
      · exact beyond
      · exact behind
  | skipIfEqual x y number =>
      refine ⟨.skipIfEqual x y, number, ?_⟩
      simp only [Operation.landing, Operation.advance]
      split
      · exact beyond
      · exact behind
  | skipUnlessEqual x y number =>
      refine ⟨.skipUnlessEqual x y, number, ?_⟩
      simp only [Operation.landing, Operation.advance]
      split
      · exact beyond
      · exact behind
  | load x kk number => exact ⟨.load x kk, number, behind⟩
  | add x kk number => exact ⟨.add x kk, number, behind⟩
  | random x kk number => exact ⟨.random x kk, number, behind⟩
  | combine x y selector value flag? number combined =>
      obtain ⟨op, selected⟩ := exists_selector_of_arithmeticRow? combined
      exact ⟨.combine op x y, by rw [number, Operation.code, selected], behind⟩
  | skipIfKey x key number named =>
      refine ⟨.skipIfKey x, number, ?_⟩
      simp only [Operation.landing, Operation.advance, isDown_eq_true_iff named]
      split
      · exact beyond
      · exact behind
  | skipUnlessKey x key number named =>
      refine ⟨.skipUnlessKey x, number, ?_⟩
      simp only [Operation.landing, Operation.advance, isDown_eq_true_iff named]
      split
      · exact behind
      · exact beyond
  | readDelay x number => exact ⟨.readDelay x, number, behind⟩
  | awaitKey x number => exact ⟨.awaitKey x, number, (UInt16.ofNat_toNat).symm⟩
  | setDelay x number => exact ⟨.setDelay x, number, behind⟩
  | setSound x number => exact ⟨.setSound x, number, behind⟩
  | addIndex x number => exact ⟨.addIndex x, number, behind⟩
  | pointAtGlyph x number => exact ⟨.pointAtGlyph x, number, behind⟩
  | storeDecimal x memory number stored => exact ⟨.storeDecimal x, number, behind⟩
  | storeRegisters x memory number stored => exact ⟨.storeRegisters x, number, behind⟩
  | loadRegisters x number within => exact ⟨.loadRegisters x, number, behind⟩
  | draw x y n screen collision number within shape pixels collides =>
      exact ⟨.draw x y n, number, behind⟩

/-- An execution that succeeds has fetched its operation from memory and goes on where
that does. -/
theorem pc_of_execute (executed : machine.execute = ⟨after, none⟩) :
    machine.pc.toNat + 2 ≤ machine.memory.size ∧
      ∃ operation, machine.operation? = some operation ∧
        after.pc = UInt16.ofNat (operation.landing machine + operation.advance machine) := by
  obtain ⟨word, named, held, row, rfl⟩ := (execute_eq_iff_row machine after).mp executed
  obtain ⟨operation, number, next⟩ := pc_of_row row
  exact ⟨held.within, operation, operation?_eq_some_iff.mpr ⟨word, held, number⟩, next⟩

/-! ## Machines within reach -/

/-- The open calls lie in memory with both their bytes, and the program counter is
behind memory by four bytes at most, or where jumps or the start of a program lead. -/
structure WithinReach (config : Config) (machine : Machine) : Prop where
  calls : ∀ caller ∈ machine.calls, caller.toNat + 2 ≤ config.memorySize
  pc : machine.pc.toNat ≤ max (config.memorySize + 4) (max 0x1100 config.start.toNat)

/-- The machine is within reach, and stays there when a wait ends. -/
structure Tethered (config : Config) (machine : Machine) : Prop
    extends WithinReach config machine where
  size : machine.memory.size = config.memorySize
  waiting : machine.waiting.isSome = true →
    machine.pc.toNat + 2 ≤ max (config.memorySize + 4) 0x1100

/-- A machine whose program counter is no further than an operation leads can wait
there. -/
theorem tethered_of_pc_le (calls : ∀ caller ∈ machine.calls, caller.toNat + 2 ≤ config.memorySize)
    (size : machine.memory.size = config.memorySize)
    (bound : machine.pc.toNat ≤ max (config.memorySize + 2) 0x10FE) : machine.Tethered config :=
  ⟨⟨calls, by omega⟩, size, fun _ => by omega⟩

/-! ## Executions -/

/-- No operation leads further than a skip at the end of memory or a jump with an
offset. -/
theorem Tethered.landing_add_advance_le (tethered : machine.Tethered config)
    (fetched : machine.pc.toNat + 2 ≤ machine.memory.size) (operation : Operation) :
    operation.landing machine + operation.advance machine ≤
      max (config.memorySize + 2) 0x10FE := by
  have inside := tethered.size ▸ fetched
  cases operation with
  | endSubroutine =>
      simp only [Operation.landing, Operation.advance]
      cases called : machine.calls with
      | nil => simp only [List.headD_nil, UInt16.reduceToNat]; omega
      | cons caller earlier =>
          have bound := tethered.calls caller (called ▸ List.mem_cons_self)
          simp only [List.headD_cons]
          omega
  | jump target | call target =>
      have bound := target.isLt
      simp only [Operation.landing, Operation.advance]
      omega
  | jumpOffset base =>
      have bound := base.isLt
      have offset := (machine.register 0).toNat_lt
      simp only [Operation.landing, Operation.advance]
      omega
  | skipIfByte | skipUnlessByte | skipIfEqual | skipUnlessEqual | skipIfKey | skipUnlessKey =>
      simp only [Operation.landing, Operation.advance]
      split <;> omega
  | _ =>
      simp only [Operation.landing, Operation.advance]
      omega

theorem Tethered.pc_of_execute (tethered : machine.Tethered config)
    (small : config.memorySize ≤ 0xFFF0) (executed : machine.execute = ⟨after, none⟩) :
    after.pc.toNat ≤ max (config.memorySize + 2) 0x10FE ∧
      ∃ operation, machine.operation? = some operation ∧
        after.pc.toNat = operation.landing machine + operation.advance machine := by
  obtain ⟨fetched, operation, asked, next⟩ := Machine.pc_of_execute executed
  have bound := tethered.landing_add_advance_le fetched operation
  have exact : after.pc.toNat = operation.landing machine + operation.advance machine := by
    rw [next, UInt16.toNat_ofNat']
    omega
  exact ⟨exact ▸ bound, operation, asked, exact⟩

theorem Tethered.calls_execute (tethered : machine.Tethered config) :
    ∀ caller ∈ machine.execute.machine.calls, caller.toNat + 2 ≤ config.memorySize := by
  intro caller opened
  cases machine.callMove_execute with
  | kept same => exact tethered.calls caller (same ▸ opened)
  | called word nnn held number pushed =>
      rw [pushed] at opened
      rcases List.mem_cons.mp opened with rfl | earlier
      · exact tethered.size ▸ held.within
      · exact tethered.calls caller earlier
  | returned word latest held number popped behind =>
      exact tethered.calls caller (popped ▸ List.mem_cons_of_mem _ opened)

theorem Tethered.execute (tethered : machine.Tethered config) (small : config.memorySize ≤ 0xFFF0) :
    machine.execute.machine.Tethered config := by
  have size := machine.sameFixtures_execute.size.trans tethered.size
  have calls := tethered.calls_execute
  rcases executed : machine.execute with ⟨after, _ | fault⟩
  · rw [executed] at size calls
    exact tethered_of_pc_le calls size (tethered.pc_of_execute small executed).1
  · obtain ⟨_, rfl⟩ := execute_eq_fault_iff.mp executed
    exact ⟨⟨tethered.calls, tethered.pc⟩, tethered.size, tethered.waiting⟩

/-! ## Waits -/

/-- The wait of a machine ends two bytes further, without wrapping. -/
theorem Tethered.pc_of_awaken (tethered : machine.Tethered config)
    (small : config.memorySize ≤ 0xFFF0) (waits : machine.waiting.isSome = true)
    (awoken : machine.awaken? = some awake) : awake.pc.toNat = machine.pc.toNat + 2 := by
  have bound := tethered.waiting waits
  obtain ⟨x, waiting⟩ := Option.isSome_iff_exists.mp waits
  rw [awaken?, waiting] at awoken
  obtain ⟨key, _, rfl⟩ := Option.map_eq_some_iff.mp awoken
  show (machine.pc + 2).toNat = machine.pc.toNat + 2
  rw [UInt16.toNat_add]
  simp only [UInt16.reduceToNat]
  omega

theorem Tethered.awaken (tethered : machine.Tethered config) (small : config.memorySize ≤ 0xFFF0)
    (awoken : machine.awaken? = some awake) : awake.Tethered config := by
  rcases awoken_eq awoken with rfl | ⟨registers, pc, rfl⟩
  · exact tethered
  · cases waiting : machine.waiting with
    | none =>
        rw [awaken?, waiting] at awoken
        exact Option.some.inj awoken ▸ tethered
    | some x =>
        have waits := Option.isSome_iff_exists.mpr ⟨x, waiting⟩
        have moved := tethered.pc_of_awaken small waits awoken
        have bound := tethered.waiting waits
        exact ⟨⟨tethered.calls, by omega⟩, tethered.size, fun impossible => by cases impossible⟩

theorem lasting_tethered (small : config.memorySize ≤ 0xFFF0) : Lasting (Tethered config) where
  advanced _ _ tethered := ⟨⟨tethered.calls, tethered.pc⟩, tethered.size, tethered.waiting⟩
  awoken _ _ tethered awoken := tethered.awaken small awoken
  executed _ tethered := tethered.execute small

/-! ## Requests -/

theorem Tethered.of_touched {kind : Request.Kind} (tethered : machine.Tethered config)
    (touched : machine.Touched kind after) (staying : kind ≠ .moving) : after.Tethered config := by
  cases touched with
  | moved calls pc => exact absurd rfl staying
  | stored memory font size =>
      exact ⟨⟨tethered.calls, tethered.pc⟩, size.trans tethered.size, tethered.waiting⟩
  | _ => exact ⟨⟨tethered.calls, tethered.pc⟩, tethered.size, tethered.waiting⟩

theorem Tethered.returnToCall (tethered : machine.Tethered config) :
    (machine.answer .returnToCall).machine.Tethered config := by
  cases called : machine.calls with
  | nil =>
      rw [answer, Machine.returnToCall, called]
      exact tethered
  | cons caller earlier =>
      have inside := tethered.calls
      rw [called] at inside
      obtain ⟨latest, others⟩ := List.forall_mem_cons.mp inside
      rw [answer, Machine.returnToCall, called]
      refine tethered_of_pc_le others tethered.size ?_
      show caller.toNat ≤ max (config.memorySize + 2) 0x10FE
      omega

theorem Tethered.answer_direct (tethered : machine.Tethered config)
    (uncalled : ∀ target, request ≠ .callAt target) (direct : request.runs = false) :
    (machine.answer request).machine.Tethered config := by
  cases request with
  | callAt target => exact absurd rfl (uncalled target)
  | returnToCall => exact tethered.returnToCall
  | execute | tick _ | frame => cases direct
  | _ => exact tethered.of_touched (touched_answer rfl) (by simp [Request.kind])

theorem tethered_of_atRest (rested : machine.AtRest config) : machine.Tethered config where
  calls caller impossible := by
    rw [rested.calls] at impossible
    cases impossible
  pc := by
    rw [rested.pc]
    omega
  size := rested.size
  waiting impossible := by
    rw [rested.waiting] at impossible
    cases impossible

/-- In a memory that ends well below the last address, no history without calls from
outside leads out of reach, and wherever it ends a wait or executes an instruction, the
program counter moves on without wrapping. -/
theorem program_counter_never_wraps (config : Config) (source : RandomSource) (booted : Machine)
    (built : build config source = .ok booted) (small : config.memorySize ≤ 0xFFF0)
    (requests : List Request)
    (uncalled : ∀ request ∈ requests, ∀ target, request ≠ .callAt target) :
    (booted.afterAll requests).WithinReach config ∧
    (∀ asleep awake, Deed.woke asleep awake ∈ booted.deedsAll requests →
      asleep.WithinReach config ∧ awake.pc.toNat = asleep.pc.toNat + 2) ∧
    ∀ start, Deed.executed start ∈ booted.deedsAll requests →
      start.WithinReach config ∧
      ∀ after, start.execute = ⟨after, none⟩ →
        ∃ operation, start.operation? = some operation ∧
          after.pc.toNat = operation.landing start + operation.advance start := by
  obtain ⟨last, below⟩ := (lasting_tethered small).by_of_mem_deedsAll
    (fun request asked direct machine tethered =>
      tethered.answer_direct (uncalled request asked) direct)
    (tethered_of_atRest (atRest_of_build built))
  refine ⟨last.toWithinReach, fun asleep awake done => ?_, fun start done => ?_⟩
  · obtain ⟨tethered, waits, awoken⟩ := below _ done
    exact ⟨tethered.toWithinReach, tethered.pc_of_awaken small waits awoken⟩
  · have tethered : start.Tethered config := below _ done
    exact ⟨tethered.toWithinReach, fun after executed => (tethered.pc_of_execute small executed).2⟩

/-- A program of two words at the end of memory waits for a key and then skips, which
leads two bytes out of memory. -/
theorem skip_at_end_of_memory :
    ∃ booted : Machine, ∃ config : Config, ∃ requests : List Request,
      boot config 0 = .ok booted ∧ config.memorySize = 0x204 ∧
      requests = [.loadProgram ⟨[0xF3, 0x0A, 0x30, 0x00], none⟩, .execute, .press 5, .tick 0.5,
        .returnToCall] ∧
      (booted.afterAll requests).pc = 0x206 ∧ (booted.afterAll requests).WithinReach config ∧
      (booted.deedsAll requests).length = 3 ∧
      ∀ asleep awake, Deed.woke asleep awake ∈ booted.deedsAll requests →
        awake.pc.toNat = asleep.pc.toNat + 2 := by
  let config : Config := { Config.standard with memorySize := 0x204 }
  let requests : List Request :=
    [.loadProgram ⟨[0xF3, 0x0A, 0x30, 0x00], none⟩, .execute, .press 5, .tick 0.5, .returnToCall]
  have made :
      ((boot config 0).map fun booted =>
        decide ((booted.afterAll requests).pc = 0x206) &&
          decide ((booted.deedsAll requests).length = 3)).toOption = some true := by
    decide +kernel
  obtain ⟨booted, built, made⟩ := exists_ok_of_map made
  simp only [Bool.and_eq_true, decide_eq_true_eq] at made
  obtain ⟨last, waking, _⟩ := program_counter_never_wraps config _ booted built (by decide)
    requests (by simp [requests])
  exact ⟨booted, config, requests, built, rfl, rfl, made.1, last, made.2,
    fun asleep awake done => (waking asleep awake done).2⟩

end Machine

end Chip8

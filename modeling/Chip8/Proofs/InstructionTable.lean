import Chip8.Proofs.OperationWords
import Chip8.Proofs.Registers
import Chip8.Proofs.Sprites

/-!
# The table of instructions

Every row of the table gives the number of a word, with its operands in their
places, and the machine that executing the word leads to.  A row names exactly the
components that change.  Rows speak of bits, bytes and registers and not of the
definitions that perform an operation: a screen and a memory are given by what
each pixel and each byte is afterwards.

The main statement is that an execution succeeds exactly if both bytes of the word
at the program counter are in memory and a row applies to the word, and that it
then leaves the machine of the row.  Reading an operation off the word decides
which row it is, so both directions go through the word's operation.
-/

namespace Chip8

/-- Result and flag of an arithmetic instruction, by its last nibble and the
values of its registers. -/
def arithmeticRow? (selector x y : Nat) : Option (Nat × Option Nat) :=
  match selector with
  | 0x0 => some (y, none)
  | 0x1 => some (x ||| y, none)
  | 0x2 => some (x &&& y, none)
  | 0x3 => some (x ^^^ y, none)
  | 0x4 => some ((x + y) % 256, some (if 255 < x + y then 1 else 0))
  | 0x5 => some (x - y, some (if y ≤ x then 1 else 0))
  | 0x6 => some (y / 2, some (y % 2))
  | 0x7 => some (y - x, some (if x ≤ y then 1 else 0))
  | 0xE => some (y * 2 % 256, some (y / 128))
  | _ => none

/-- The registers after an arithmetic instruction.  The flag is assigned last. -/
def Registers.assignFlagged (registers : Registers) (x : Register) (value : Nat) :
    Option Nat → Registers
  | none => registers.assign x (UInt8.ofNat value)
  | some flag => (registers.assign x (UInt8.ofNat value)).assign 0xF (UInt8.ofNat flag)

namespace Machine

/-! ## The table -/

/-- A word, and the machine that executing it leads to. -/
inductive Row (machine : Machine) (word : UInt16) : Machine → Prop where
  | clearScreen (screen : Screen)
      (number : word.toNat = 0x00E0)
      (shape : machine.screen.SameShape screen)
      (dark : ∀ column row, screen.OnScreen column row → screen.pixel column row = false) :
      Row machine word { machine with screen, pc := machine.pc + 2 }
  | endSubroutine (caller : UInt16) (earlier : List UInt16)
      (number : word.toNat = 0x00EE)
      (called : machine.calls = caller :: earlier) :
      Row machine word { machine with calls := earlier, pc := caller + 2 }
  | jump (nnn : Fin 4096)
      (number : word.toNat = 0x1000 + nnn) :
      Row machine word { machine with pc := UInt16.ofNat nnn }
  | call (nnn : Fin 4096)
      (number : word.toNat = 0x2000 + nnn) :
      Row machine word
        { machine with calls := machine.pc :: machine.calls, pc := UInt16.ofNat nnn }
  | setIndex (nnn : Fin 4096)
      (number : word.toNat = 0xA000 + nnn) :
      Row machine word { machine with index := UInt16.ofNat nnn, pc := machine.pc + 2 }
  | jumpOffset (nnn : Fin 4096)
      (number : word.toNat = 0xB000 + nnn) :
      Row machine word { machine with pc := UInt16.ofNat (nnn + (machine.register 0).toNat) }
  | skipIfByte (x : Register) (kk : UInt8)
      (number : word.toNat = 0x3000 + x * 0x100 + kk.toNat) :
      Row machine word
        { machine with pc := if machine.register x = kk then machine.pc + 4 else machine.pc + 2 }
  | skipUnlessByte (x : Register) (kk : UInt8)
      (number : word.toNat = 0x4000 + x * 0x100 + kk.toNat) :
      Row machine word
        { machine with pc := if machine.register x ≠ kk then machine.pc + 4 else machine.pc + 2 }
  | skipIfEqual (x y : Register)
      (number : word.toNat = 0x5000 + x * 0x100 + y * 0x10) :
      Row machine word
        { machine with
          pc := if machine.register x = machine.register y then machine.pc + 4
            else machine.pc + 2 }
  | skipUnlessEqual (x y : Register)
      (number : word.toNat = 0x9000 + x * 0x100 + y * 0x10) :
      Row machine word
        { machine with
          pc := if machine.register x ≠ machine.register y then machine.pc + 4
            else machine.pc + 2 }
  | load (x : Register) (kk : UInt8)
      (number : word.toNat = 0x6000 + x * 0x100 + kk.toNat) :
      Row machine word
        { machine with registers := machine.registers.assign x kk, pc := machine.pc + 2 }
  | add (x : Register) (kk : UInt8)
      (number : word.toNat = 0x7000 + x * 0x100 + kk.toNat) :
      Row machine word
        { machine with
          registers := machine.registers.assign x (machine.register x + kk)
          pc := machine.pc + 2 }
  | random (x : Register) (kk : UInt8)
      (number : word.toNat = 0xC000 + x * 0x100 + kk.toNat) :
      Row machine word
        { machine with
          generator := { machine.generator with drawn := machine.generator.drawn + 1 }
          registers := machine.registers.assign x
            (machine.generator.stream machine.generator.drawn &&& kk)
          pc := machine.pc + 2 }
  | combine (x y : Register) (selector : Nibble) (value : Nat) (flag? : Option Nat)
      (number : word.toNat = 0x8000 + x * 0x100 + y * 0x10 + selector)
      (combined : arithmeticRow? selector (machine.register x).toNat (machine.register y).toNat =
        some (value, flag?)) :
      Row machine word
        { machine with
          registers := machine.registers.assignFlagged x value flag?
          pc := machine.pc + 2 }
  | skipIfKey (x : Register) (key : Nibble)
      (number : word.toNat = 0xE09E + x * 0x100)
      (named : (machine.register x).toNat = key) :
      Row machine word
        { machine with pc := if machine.keys.get key then machine.pc + 4 else machine.pc + 2 }
  | skipUnlessKey (x : Register) (key : Nibble)
      (number : word.toNat = 0xE0A1 + x * 0x100)
      (named : (machine.register x).toNat = key) :
      Row machine word
        { machine with pc := if machine.keys.get key then machine.pc + 2 else machine.pc + 4 }
  | readDelay (x : Register)
      (number : word.toNat = 0xF007 + x * 0x100) :
      Row machine word
        { machine with
          registers := machine.registers.assign x machine.delay.value
          pc := machine.pc + 2 }
  | awaitKey (x : Register)
      (number : word.toNat = 0xF00A + x * 0x100) :
      Row machine word { machine with waiting := some x }
  | setDelay (x : Register)
      (number : word.toNat = 0xF015 + x * 0x100) :
      Row machine word
        { machine with
          delay := { machine.delay with value := machine.register x }
          pc := machine.pc + 2 }
  | setSound (x : Register)
      (number : word.toNat = 0xF018 + x * 0x100) :
      Row machine word
        { machine with
          sound := { machine.sound with value := machine.register x }
          pc := machine.pc + 2 }
  | addIndex (x : Register)
      (number : word.toNat = 0xF01E + x * 0x100) :
      Row machine word
        { machine with
          index := UInt16.ofNat (machine.index.toNat + (machine.register x).toNat)
          pc := machine.pc + 2 }
  | pointAtGlyph (x : Register)
      (number : word.toNat = 0xF029 + x * 0x100) :
      Row machine word
        { machine with
          index := UInt16.ofNat
            (machine.font.address.toNat + (machine.register x).toNat * machine.font.stride)
          pc := machine.pc + 2 }
  | storeDecimal (x : Register) (memory : Memory)
      (number : word.toNat = 0xF033 + x * 0x100)
      (stored : machine.memory.Stored machine.index.toNat
        [machine.register x / 100, machine.register x / 10 % 10, machine.register x % 10]
        memory) :
      Row machine word { machine with memory, pc := machine.pc + 2 }
  | storeRegisters (x : Register) (memory : Memory)
      (number : word.toNat = 0xF055 + x * 0x100)
      (stored : machine.memory.Stored machine.index.toNat
        ((List.range (x + 1)).map fun i => machine.register (Fin.ofNat 16 i)) memory) :
      Row machine word { machine with memory, pc := machine.pc + 2 }
  | loadRegisters (x : Register)
      (number : word.toNat = 0xF065 + x * 0x100)
      (within : machine.index.toNat + (x + 1) ≤ machine.memory.size) :
      Row machine word
        { machine with
          registers := Vector.ofFn fun y =>
            if y ≤ x then machine.memory.byteAt (machine.index.toNat + y)
            else machine.register y
          pc := machine.pc + 2 }
  | draw (x y : Register) (n : Nibble) (screen : Screen) (collision : Bool)
      (number : word.toNat = 0xD000 + x * 0x100 + y * 0x10 + n)
      (within : machine.index.toNat + n ≤ machine.memory.size)
      (shape : machine.screen.SameShape screen)
      (pixels : ∀ column row, machine.screen.OnScreen column row →
        screen.pixel column row =
          (machine.screen.pixel column row ^^
            decide (machine.screen.hits (machine.register x).toNat (machine.register y).toNat
              machine.memory.bytes machine.index.toNat n column row % 2 = 1)))
      (collides : collision = true ↔ ∃ column row, machine.screen.OnScreen column row ∧
        Screen.SwitchedOff (machine.screen.pixel column row)
          (machine.screen.hits (machine.register x).toNat (machine.register y).toNat
            machine.memory.bytes machine.index.toNat n column row)) :
      Row machine word
        { machine with
          screen
          registers := machine.registers.assign 0xF (if collision then 1 else 0)
          pc := machine.pc + 2 }

end Machine

/-! ## Arithmetic -/

/-- The table agrees with every arithmetic operation on result and flag. -/
theorem arithmeticRow?_selector (op : Arithmetic) (x y : UInt8) :
    arithmeticRow? op.selector x.toNat y.toNat =
      some ((op.result x y).toNat, (op.flag? x y).map fun flag => if flag then 1 else 0) := by
  have xBound := x.toNat_lt
  have yBound := y.toNat_lt
  cases op with
  | copy => rfl
  | or => exact congrArg (fun value => some (value, none)) (UInt8.toNat_or x y).symm
  | and => exact congrArg (fun value => some (value, none)) (UInt8.toNat_and x y).symm
  | xor => exact congrArg (fun value => some (value, none)) (UInt8.toNat_xor x y).symm
  | add =>
      show some (_, _) = some (_, _)
      simp only [Arithmetic.result, Arithmetic.flag?, UInt8.toNat_add, Option.map_some,
        decide_eq_true_eq]
  | subtract =>
      show some (_, _) = some (_, _)
      have small : (x.toNat - y.toNat) % 2 ^ 8 = x.toNat - y.toNat := by omega
      simp only [Arithmetic.result, Arithmetic.flag?, UInt8.toNat_ofNat', small, Option.map_some,
        decide_eq_true_eq, UInt8.le_iff_toNat_le]
  | shiftRight =>
      show some (_, _) = some (_, _)
      have small : y.toNat / 2 % 2 ^ 8 = y.toNat / 2 := by omega
      have lowest : y.toNat % 2 = if y.toNat % 2 = 1 then 1 else 0 := by split <;> omega
      simp only [Arithmetic.result, Arithmetic.flag?, UInt8.toNat_ofNat', small, Option.map_some,
        decide_eq_true_eq, ← lowest]
  | subtractFrom =>
      show some (_, _) = some (_, _)
      have small : (y.toNat - x.toNat) % 2 ^ 8 = y.toNat - x.toNat := by omega
      simp only [Arithmetic.result, Arithmetic.flag?, UInt8.toNat_ofNat', small, Option.map_some,
        decide_eq_true_eq, UInt8.le_iff_toNat_le]
  | shiftLeft =>
      show some (_, _) = some (_, _)
      have doubled : (y + y).toNat = y.toNat * 2 % 256 := by
        rw [UInt8.toNat_add, Nat.mul_two]
      have highest : y.toNat / 128 = if 128 ≤ y.toNat then 1 else 0 := by split <;> omega
      simp only [Arithmetic.result, Arithmetic.flag?, doubled, Option.map_some,
        decide_eq_true_eq, ← highest]

theorem exists_selector_of_arithmeticRow? {selector x y : Nat} {entry : Nat × Option Nat}
    (combined : arithmeticRow? selector x y = some entry) :
    ∃ op : Arithmetic, (op.selector : Nat) = selector := by
  unfold arithmeticRow? at combined
  split at combined
  · exact ⟨.copy, rfl⟩
  · exact ⟨.or, rfl⟩
  · exact ⟨.and, rfl⟩
  · exact ⟨.xor, rfl⟩
  · exact ⟨.add, rfl⟩
  · exact ⟨.subtract, rfl⟩
  · exact ⟨.shiftRight, rfl⟩
  · exact ⟨.subtractFrom, rfl⟩
  · exact ⟨.shiftLeft, rfl⟩
  · cases combined

namespace Machine

theorem next_combine (machine : Machine) (op : Arithmetic) (x y : Register) :
    (machine.combine op x y).next =
      { machine with
        registers := machine.registers.assignFlagged x
          (op.result (machine.register x) (machine.register y)).toNat
          ((op.flag? (machine.register x) (machine.register y)).map
            fun flag => if flag then 1 else 0)
        pc := machine.pc + 2 } := by
  cases flagged : op.flag? (machine.register x) (machine.register y) with
  | none =>
      simp only [combine, flagged, next_setRegister, Registers.assignFlagged, Option.map_none,
        UInt8.ofNat_toNat]
  | some flag =>
      simp only [combine, flagged, next_setFlag, setRegister, Registers.setIfInBounds_eq_assign,
        Registers.assignFlagged, Option.map_some, UInt8.ofNat_toNat]
      cases flag <;> rfl

/-! ## From operations to rows -/

theorem add_toUInt16 (word : UInt16) (byte : UInt8) :
    word + byte.toUInt16 = UInt16.ofNat (word.toNat + byte.toNat) := by
  apply UInt16.toNat_inj.mp
  rw [UInt16.toNat_add, UInt8.toNat_toUInt16, UInt16.toNat_ofNat']

theorem toNat_address (nnn : Fin 4096) : (UInt16.ofNat nnn).toNat = nnn := by
  have bound := nnn.isLt
  rw [UInt16.toNat_ofNat']
  omega

/-- Loading the bytes from an address on into the first registers. -/
theorem overwriteRegisters_bytes (machine : Machine) (x : Register) :
    overwriteRegisters machine.registers 0
        ((List.range (x + 1)).map fun i => machine.memory.byteAt (machine.index.toNat + i)) =
      Vector.ofFn fun y =>
        if y ≤ x then machine.memory.byteAt (machine.index.toNat + y) else machine.register y := by
  apply Registers.eq_of_get
  intro y
  rw [get_overwriteRegisters, Registers.get_ofFn, List.length_map, List.length_range]
  by_cases low : y ≤ x
  · have bound : (y : Nat) < x + 1 := Nat.lt_succ_of_le low
    rw [if_pos low, if_pos (by omega)]
    simp [bound]
  · have bound : ¬ (y : Nat) < x + 1 := fun below => low (Nat.le_of_lt_succ below)
    rw [if_neg low, if_neg (by omega), register]

theorem row_of_perform {machine after : Machine} {operation : Operation} {word : UInt16}
    (number : word.toNat = operation.code) (performed : machine.perform operation = .ok after) :
    Row machine word after := by
  -- a refused operation gives no machine, so only its granted case leads to a row
  cases operation with
  | clearScreen =>
      obtain rfl := Except.ok.inj performed
      exact .clearScreen _ number machine.screen.sameShape_clear fun _ _ => Screen.pixel_clear
  | endSubroutine =>
      cases called : machine.calls with
      | nil =>
          rw [perform, returnToCall, called] at performed
          cases performed
      | cons caller earlier =>
          rw [perform, returnToCall, called] at performed
          obtain rfl := Except.ok.inj performed
          exact .endSubroutine caller earlier number called
  | jump nnn =>
      obtain rfl := Except.ok.inj performed
      exact .jump nnn number
  | call nnn =>
      obtain rfl := Except.ok.inj performed
      exact .call nnn number
  | setIndex nnn =>
      obtain rfl := Except.ok.inj performed
      exact .setIndex nnn number
  | jumpOffset nnn =>
      obtain rfl := Except.ok.inj performed
      rw [add_toUInt16, toNat_address]
      exact .jumpOffset nnn number
  | skipIfByte x kk =>
      obtain rfl := Except.ok.inj performed
      rw [skipIf_eq]
      simp only [decide_eq_true_eq]
      exact .skipIfByte x kk number
  | skipUnlessByte x kk =>
      obtain rfl := Except.ok.inj performed
      rw [skipIf_eq]
      simp only [decide_eq_true_eq]
      exact .skipUnlessByte x kk number
  | skipIfEqual x y =>
      obtain rfl := Except.ok.inj performed
      rw [skipIf_eq]
      simp only [decide_eq_true_eq]
      exact .skipIfEqual x y number
  | skipUnlessEqual x y =>
      obtain rfl := Except.ok.inj performed
      rw [skipIf_eq]
      simp only [decide_eq_true_eq]
      exact .skipUnlessEqual x y number
  | load x kk =>
      obtain rfl := Except.ok.inj performed
      rw [next_setRegister]
      exact .load x kk number
  | add x kk =>
      obtain rfl := Except.ok.inj performed
      rw [next_setRegister]
      exact .add x kk number
  | random x mask =>
      obtain rfl := Except.ok.inj performed
      rw [next_setRegister]
      exact .random x mask number
  | combine op x y =>
      obtain rfl := Except.ok.inj performed
      rw [next_combine]
      exact .combine x y op.selector _ _ number (arithmeticRow?_selector op _ _)
  | skipIfKey x =>
      by_cases valid : (machine.register x).toNat < 16
      · rw [perform, isDown_of_lt valid] at performed
        obtain rfl := Except.ok.inj performed
        rw [skipIf_eq]
        exact .skipIfKey x _ number rfl
      · rw [perform, isDown_of_not_lt valid] at performed
        cases performed
  | skipUnlessKey x =>
      by_cases valid : (machine.register x).toNat < 16
      · rw [perform, isDown_of_lt valid] at performed
        obtain rfl := Except.ok.inj performed
        rw [skipIf_eq]
        simp only [Bool.not_eq_true', Bool.eq_false_iff, ite_not]
        exact .skipUnlessKey x _ number rfl
      · rw [perform, isDown_of_not_lt valid] at performed
        cases performed
  | readDelay x =>
      obtain rfl := Except.ok.inj performed
      rw [next_setRegister]
      exact .readDelay x number
  | awaitKey x =>
      obtain rfl := Except.ok.inj performed
      exact .awaitKey x number
  | setDelay x =>
      obtain rfl := Except.ok.inj performed
      exact .setDelay x number
  | setSound x =>
      obtain rfl := Except.ok.inj performed
      exact .setSound x number
  | addIndex x =>
      obtain rfl := Except.ok.inj performed
      rw [add_toUInt16]
      exact .addIndex x number
  | pointAtGlyph x =>
      obtain rfl := Except.ok.inj performed
      exact .pointAtGlyph x number
  | storeDecimal x =>
      by_cases within : machine.index.toNat + 3 ≤ machine.memory.size
      · rw [perform, load_of_within (by exact within)] at performed
        obtain rfl := Except.ok.inj performed
        exact .storeDecimal x _ number (Memory.stored_overwrite within)
      · rw [perform, load_of_not_within (by exact within)] at performed
        cases performed
  | storeRegisters x =>
      by_cases within : machine.index.toNat + (machine.registersThrough x).length ≤
          machine.memory.size
      · rw [perform, load_of_within within] at performed
        obtain rfl := Except.ok.inj performed
        have stored := Memory.stored_overwrite within
        rw [registersThrough_eq] at stored
        rw [registersThrough_eq]
        exact .storeRegisters x _ number stored
      · rw [perform, load_of_not_within within] at performed
        cases performed
  | loadRegisters x =>
      by_cases within : machine.index.toNat + (x + 1) ≤ machine.memory.size
      · rw [perform, Memory.read_eq_ok within] at performed
        obtain rfl := Except.ok.inj performed
        rw [overwriteRegisters_bytes]
        exact .loadRegisters x number within
      · rw [perform, Memory.read_eq_error within] at performed
        cases performed
  | draw x y n =>
      by_cases within : machine.index.toNat + n ≤ machine.memory.size
      · rw [perform, Screen.drawFrom_eq_draw _ _ _ within] at performed
        obtain rfl := Except.ok.inj performed
        rw [next_setFlag]
        exact .draw x y n _ _ number within (Screen.sameShape_draw _ _ _ _)
          (fun column row inside => Screen.pixel_draw inside _ _ within)
          (Screen.draw_reports_iff _ _ _ within)
      · rw [perform, Screen.drawFrom_eq_error _ _ _ within] at performed
        cases performed

/-! ## From rows to operations -/

theorem perform_of_row {machine after : Machine} {word : UInt16} (row : Row machine word after) :
    ∃ operation : Operation, word.toNat = operation.code ∧
      machine.perform operation = .ok after := by
  cases row with
  | clearScreen screen number shape dark =>
      rw [Screen.eq_clear_of_dark shape dark]
      exact ⟨.clearScreen, number, rfl⟩
  | endSubroutine caller earlier number called =>
      refine ⟨.endSubroutine, number, ?_⟩
      rw [perform, returnToCall, called]
      rfl
  | jump nnn number => exact ⟨.jump nnn, number, rfl⟩
  | call nnn number => exact ⟨.call nnn, number, rfl⟩
  | setIndex nnn number => exact ⟨.setIndex nnn, number, rfl⟩
  | jumpOffset nnn number =>
      refine ⟨.jumpOffset nnn, number, ?_⟩
      rw [perform, add_toUInt16, toNat_address]
  | skipIfByte x kk number =>
      refine ⟨.skipIfByte x kk, number, ?_⟩
      rw [perform, skipIf_eq]
      simp only [decide_eq_true_eq]
  | skipUnlessByte x kk number =>
      refine ⟨.skipUnlessByte x kk, number, ?_⟩
      rw [perform, skipIf_eq]
      simp only [decide_eq_true_eq]
  | skipIfEqual x y number =>
      refine ⟨.skipIfEqual x y, number, ?_⟩
      rw [perform, skipIf_eq]
      simp only [decide_eq_true_eq]
  | skipUnlessEqual x y number =>
      refine ⟨.skipUnlessEqual x y, number, ?_⟩
      rw [perform, skipIf_eq]
      simp only [decide_eq_true_eq]
  | load x kk number =>
      exact ⟨.load x kk, number, congrArg Except.ok (next_setRegister _ _ _)⟩
  | add x kk number =>
      exact ⟨.add x kk, number, congrArg Except.ok (next_setRegister _ _ _)⟩
  | random x kk number =>
      exact ⟨.random x kk, number, congrArg Except.ok (next_setRegister _ _ _)⟩
  | combine x y selector value flag? number combined =>
      obtain ⟨op, selected⟩ := exists_selector_of_arithmeticRow? combined
      rw [← selected, arithmeticRow?_selector] at combined
      cases combined
      refine ⟨.combine op x y, ?_, congrArg Except.ok (next_combine _ _ _ _)⟩
      rw [number, Operation.code, selected]
  | skipIfKey x key number named =>
      have valid : (machine.register x).toNat < 16 := named ▸ key.isLt
      have same : key = ⟨(machine.register x).toNat, valid⟩ := Fin.ext named.symm
      refine ⟨.skipIfKey x, number, ?_⟩
      rw [perform, isDown_of_lt valid, ← same]
      exact congrArg Except.ok (skipIf_eq machine _)
  | skipUnlessKey x key number named =>
      have valid : (machine.register x).toNat < 16 := named ▸ key.isLt
      have same : key = ⟨(machine.register x).toNat, valid⟩ := Fin.ext named.symm
      refine ⟨.skipUnlessKey x, number, ?_⟩
      rw [perform, isDown_of_lt valid, ← same]
      refine congrArg Except.ok ((skipIf_eq machine _).trans ?_)
      simp only [Bool.not_eq_true', Bool.eq_false_iff, ite_not]
  | readDelay x number =>
      exact ⟨.readDelay x, number, congrArg Except.ok (next_setRegister _ _ _)⟩
  | awaitKey x number => exact ⟨.awaitKey x, number, rfl⟩
  | setDelay x number => exact ⟨.setDelay x, number, rfl⟩
  | setSound x number => exact ⟨.setSound x, number, rfl⟩
  | addIndex x number =>
      refine ⟨.addIndex x, number, ?_⟩
      rw [perform, add_toUInt16]
      rfl
  | pointAtGlyph x number => exact ⟨.pointAtGlyph x, number, rfl⟩
  | storeDecimal x memory number stored =>
      refine ⟨.storeDecimal x, number, ?_⟩
      rw [(Memory.stored_overwrite stored.within).unique stored]
      rw [perform, decimalDigits, load_of_within stored.within]
      rfl
  | storeRegisters x memory number stored =>
      refine ⟨.storeRegisters x, number, ?_⟩
      rw [(Memory.stored_overwrite stored.within).unique stored]
      rw [perform, registersThrough_eq, load_of_within stored.within]
      rfl
  | loadRegisters x number within =>
      refine ⟨.loadRegisters x, number, ?_⟩
      rw [perform, Memory.read_eq_ok within, ← overwriteRegisters_bytes]
      rfl
  | draw x y n screen collision number within shape pixels collides =>
      have drawn := Screen.drawFrom_eq_draw machine.screen (machine.register x).toNat
        (machine.register y).toNat within
      -- the row's screen and collision are those of the drawing, pixel by pixel
      have drawnShape := Screen.sameShape_draw machine.screen (machine.register x).toNat
        (machine.register y).toNat
        (machine.memory.bytes.extract machine.index.toNat (machine.index.toNat + n)).toList
      have sameScreen := Screen.eq_of_pixels (drawnShape.symm.trans shape)
        fun column row inside => by
          have inside := (drawnShape.onScreen_iff column row).mp inside
          rw [pixels column row inside, Screen.pixel_draw inside _ _ within]
      have sameCollision := Bool.eq_iff_iff.mpr
        (collides.trans (Screen.draw_reports_iff machine.screen _ _ within).symm)
      refine ⟨.draw x y n, number, ?_⟩
      rw [perform, drawn, sameScreen, sameCollision]
      exact congrArg Except.ok (next_setFlag _ _)

/-! ## Executions -/

/-- A step succeeds exactly if a row applies to the word at the program counter. -/
theorem step_eq_ok_iff {machine after : Machine} :
    machine.step = .ok after ↔
      ∃ word, machine.memory.HoldsWord machine.pc.toNat word ∧ Row machine word after := by
  rw [step]
  cases fetched : machine.fetch with
  | error fault =>
      constructor
      · intro impossible
        cases impossible
      · rintro ⟨word, held, _⟩
        rw [fetch, Memory.word_eq_ok_iff.mpr held] at fetched
        cases fetched
  | ok word =>
      have held := Memory.word_eq_ok_iff.mp fetched
      constructor
      · intro stepped
        refine ⟨word, held, ?_⟩
        cases asked : Operation.ofWord? word with
        | none =>
            simp only [bind, Except.bind, asked] at stepped
            cases stepped
        | some operation =>
            simp only [bind, Except.bind, asked] at stepped
            exact row_of_perform (Operation.code_eq_iff.mpr asked) stepped
      · rintro ⟨word', held', row⟩
        obtain ⟨operation, number, performed⟩ := perform_of_row row
        have same : word' = word := held'.unique held
        subst same
        simp only [bind, Except.bind, Operation.code_eq_iff.mp number, performed]

/-- Executing succeeds exactly if the bytes of a word are in memory at the program
counter and a row of the table applies to it.  The machine is then that of the row,
without the mark of an unknown word. -/
theorem execute_eq_iff_row (machine after : Machine) :
    machine.execute = ⟨after, none⟩ ↔
      ∃ word named, machine.memory.HoldsWord machine.pc.toNat word ∧ Row machine word named ∧
        after = { named with unhandled := false } := by
  cases stepped : machine.step with
  | ok named =>
      obtain ⟨word, held, row⟩ := step_eq_ok_iff.mp stepped
      rw [execute, stepped]
      constructor
      · intro executed
        cases executed
        exact ⟨word, named, held, row, rfl⟩
      · rintro ⟨word', named', held', row', rfl⟩
        have same := step_eq_ok_iff.mpr ⟨word', held', row'⟩
        rw [stepped] at same
        cases same
        rfl
  | error fault =>
      rw [execute, stepped]
      constructor
      · intro impossible
        cases impossible
      · rintro ⟨word', named', held', row', _⟩
        have impossible := step_eq_ok_iff.mpr ⟨word', held', row'⟩
        rw [stepped] at impossible
        cases impossible

end Machine

end Chip8

import Chip8.Proofs.HeldKeys
import Chip8.Proofs.Requests
import Chip8.Proofs.Sprites

/-!
# Operations in place

The operations of a machine give back a new machine or a fault.  Here they are spelled out
once more on a single machine that is changed in place, one write after another.  A fault can
arise between two writes, and then the writes before it have happened.  So an operation that
found its fault too late would leave a machine that is neither the one before nor the one
after.

Every operation in place is shown to lead where the operation on machines leads, and to leave
the machine as it was if it is refused (`settled`).
-/

namespace Chip8

/-- A computation that changes a machine in place and may break off with a fault.  What was
written before the fault stays written. -/
abbrev InPlace (α : Type) := ExceptT Fault (StateM Machine) α

namespace InPlace

variable {α β : Type} {machine after : Machine} {fault : Fault}

/-- What the computation gives back, and the machine that it leaves. -/
def runOn (computation : InPlace α) (machine : Machine) : Except Fault α × Machine :=
  StateT.run (ExceptT.run computation) machine

/-- Break off if a check is refused. -/
def demand (result : Except Fault α) : InPlace α :=
  ExceptT.mk (pure result)

/-- Change the machine by a function that has no reason to fail. -/
def update (change : Machine → Machine) : InPlace Unit :=
  modify change

/-! ## Bytes in memory -/

/-- Put bytes at consecutive addresses, one after another. -/
def putBytes (address : Nat) : List UInt8 → InPlace Unit
  | [] => return ()
  | byte :: rest => do
      update fun machine =>
        { machine with memory := ⟨machine.memory.bytes.setIfInBounds address byte⟩ }
      putBytes (address + 1) rest

/-- Write bytes into memory. -/
def load (address : Nat) (data : List UInt8) : InPlace Unit := do
  demand (Span.check ⟨address, data.length⟩ (← get).memory.size)
  putBytes address data

/-- Put glyphs one stride apart. -/
def putGlyphs (address stride : Nat) : Font → InPlace Unit
  | [] => return ()
  | glyph :: rest => do
      putBytes address glyph
      putGlyphs (address + stride) stride rest

/-- Write a font into memory, and note where it lies and then its stride. -/
def loadFont (address : UInt16) (font : Font) : InPlace Unit := do
  demand (Span.check ⟨address.toNat, font.length * font.stride⟩ (← get).memory.size)
  putGlyphs address.toNat font.stride font
  update fun machine => { machine with font := { machine.font with address } }
  update fun machine => { machine with font := { machine.font with stride := font.stride } }

/-- Write a program at the start address and count its bytes. -/
def loadProgram (source : Machine.ProgramSource) : InPlace Nat := do
  match source.failure with
  | some failure => throw (.unreadable failure)
  | none => do
      let machine ← get
      if machine.programLimit < source.bytes.length then
        throw (.oversizedProgram source.bytes.length machine.programLimit)
      else do
        load machine.config.start.toNat source.bytes
        return source.bytes.length

/-! ## Keys -/

/-- Put a key down or up. -/
def setKey (number : UInt8) (down : Bool) : InPlace Unit := do
  let key ← demand (Machine.key number)
  update fun machine => { machine with keys := machine.keys.setIfInBounds key down }

/-- Whether a key is down. -/
def isDown (number : UInt8) : InPlace Bool := do
  let key ← demand (Machine.key number)
  return (← get).keys.get key

/-- Put one key after another down if it is held, and up otherwise. -/
def settle (hold : KeyHold) : List Nibble → InPlace Unit
  | [] => return ()
  | key :: rest => do
      setKey (UInt8.ofNat key) (0 < hold.remaining.get key)
      settle hold rest

/-! ## Calls -/

/-- Remember the program counter, and then continue at an address. -/
def callAt (target : UInt16) : InPlace Unit := do
  update fun machine => { machine with calls := machine.pc :: machine.calls }
  update fun machine => { machine with pc := target }

/-- Take the latest call off the stack, if there is one. -/
def popCall? : InPlace (Option UInt16) := do
  match (← get).calls with
  | [] => return none
  | caller :: earlier =>
      update fun machine => { machine with calls := earlier }
      return some caller

/-- Continue where the latest call was asked for. -/
def returnToCall : InPlace Unit := do
  match ← popCall? with
  | none => throw (.emptyStack (← get).pc)
  | some caller => update fun machine => { machine with pc := caller }

/-! ## Registers -/

/-- Put a byte into a register. -/
def setRegister (x : Register) (value : UInt8) : InPlace Unit :=
  update fun machine => { machine with registers := machine.registers.setIfInBounds x value }

/-- Put one or zero into the flag register. -/
def setFlag (flag : Bool) : InPlace Unit :=
  setRegister Machine.flagRegister (if flag then 1 else 0)

/-- Put bytes into consecutive registers, one after another. -/
def putRegisters (number : Nat) : List UInt8 → InPlace Unit
  | [] => return ()
  | value :: rest => do
      update fun machine =>
        { machine with registers := machine.registers.setIfInBounds number value }
      putRegisters (number + 1) rest

/-- Take the next random byte. -/
def drawByte : InPlace UInt8 := do
  let machine ← get
  update fun machine => { machine with generator := machine.generator.next }
  return machine.generator.peek

/-! ## Pixels -/

/-- Combine a pixel with a value by exclusive or, and tell whether that switched it off. -/
def xorPixel (x y : Nat) (value : Bool) : InPlace Bool := do
  let (screen, switchedOff) := (← get).screen.xor x y value
  update fun machine => { machine with screen }
  return switchedOff

/-- Draw the cells of one sprite row in the given columns. -/
def drawRow (x y : Nat) (row : UInt8) (switchedOff : Bool) : List Nat → InPlace Bool
  | [] => return switchedOff
  | column :: rest => do
      let now ← xorPixel (x + column) y (row.toNat.testBit (7 - column))
      drawRow x y row (switchedOff || now) rest

/-- Draw one sprite row after another. -/
def drawRows (x y : Nat) (switchedOff : Bool) : List UInt8 → InPlace Bool
  | [] => return switchedOff
  | row :: rest => do
      let now ← drawRow x y row switchedOff (List.range 8)
      drawRows x (y + 1) now rest

/-- Draw a sprite whose rows are a span of memory. -/
def drawFrom (x y address rows : Nat) : InPlace Bool := do
  let machine ← get
  demand (Span.check ⟨address, rows⟩ machine.memory.bytes.size)
  drawRows x y false (machine.memory.bytes.extract address (address + rows)).toList

/-! ## Runs -/

theorem runOn_bind (computation : InPlace α) (next : α → InPlace β) (machine : Machine) :
    (computation >>= next).runOn machine =
      match computation.runOn machine with
      | (.ok value, after) => (next value).runOn after
      | (.error fault, after) => (.error fault, after) := by
  show (ExceptT.bindCont next (computation.runOn machine).1).run (computation.runOn machine).2 = _
  rcases computation.runOn machine with ⟨_ | _, _⟩
  · rfl
  · rfl

theorem runOn_bind_of_ok {computation : InPlace α} {next : α → InPlace β} {value : α}
    (first : computation.runOn machine = (.ok value, after)) :
    (computation >>= next).runOn machine = (next value).runOn after := by
  rw [runOn_bind, first]

/-- What was written before a fault stays written. -/
example (machine : Machine) (fault : Fault) :
    (do callAt 0x300; throw fault : InPlace Unit).runOn machine =
      (.error fault, machine.callAt 0x300) := rfl

section Steps

variable (machine : Machine)

@[simp]
theorem runOn_pure (value : α) : (pure value : InPlace α).runOn machine = (.ok value, machine) :=
  rfl

@[simp]
theorem runOn_get_bind (next : Machine → InPlace β) :
    (get >>= next).runOn machine = (next machine).runOn machine :=
  rfl

@[simp]
theorem runOn_update_bind (change : Machine → Machine) (next : Unit → InPlace β) :
    (update change >>= next).runOn machine = (next ()).runOn (change machine) :=
  rfl

@[simp]
theorem runOn_demand_ok_bind (value : α) (next : α → InPlace β) :
    (demand (.ok value) >>= next).runOn machine = (next value).runOn machine :=
  rfl

@[simp]
theorem runOn_demand_error_bind (fault : Fault) (next : α → InPlace β) :
    (demand (.error fault) >>= next).runOn machine = (.error fault, machine) :=
  rfl

end Steps

/-- A computation leads to the machine of a result, or breaks off and leaves the machine as
it was. -/
def settled (before : Machine) : Except Fault Machine → Except Fault Unit × Machine
  | .ok after => (.ok (), after)
  | .error fault => (.error fault, before)

/-! ## Loading -/

theorem putBytes_eq (machine : Machine) (address : Nat) (data : List UInt8) :
    (putBytes address data).runOn machine =
      (.ok (),
        { machine with memory := ⟨Memory.overwrite machine.memory.bytes address data⟩ }) := by
  induction data generalizing machine address with
  | nil => rfl
  | cons byte rest induction =>
      rw [putBytes, runOn_update_bind, induction]
      rfl

theorem load_eq (machine : Machine) (address : Nat) (data : List UInt8) :
    (load address data).runOn machine = settled machine (machine.load address data) := by
  rw [load, runOn_get_bind, Machine.load, Memory.write]
  cases Span.check ⟨address, data.length⟩ machine.memory.size with
  | ok _ =>
      rw [runOn_demand_ok_bind, putBytes_eq]
      rfl
  | error fault => rfl

theorem putGlyphs_eq (machine : Machine) (address stride : Nat) (font : Font) :
    (putGlyphs address stride font).runOn machine =
      (.ok (), { machine with memory := ⟨font.place machine.memory.bytes address stride⟩ }) := by
  induction font generalizing machine address with
  | nil => rfl
  | cons glyph rest induction =>
      rw [putGlyphs, runOn_bind_of_ok (putBytes_eq machine address glyph), induction]
      rfl

theorem loadFont_eq (machine : Machine) (address : UInt16) (font : Font) :
    (loadFont address font).runOn machine = settled machine (machine.loadFont address font) := by
  rw [loadFont, runOn_get_bind, Machine.loadFont, Memory.writeFont, Font.extent]
  cases Span.check ⟨address.toNat, font.length * font.stride⟩ machine.memory.size with
  | ok _ =>
      rw [runOn_demand_ok_bind,
        runOn_bind_of_ok (putGlyphs_eq machine address.toNat font.stride font)]
      rfl
  | error fault => rfl

theorem loadProgram_eq (machine : Machine) (source : Machine.ProgramSource) :
    (loadProgram source >>= fun _ => pure ()).runOn machine =
      settled machine ((machine.loadProgram source).map Prod.fst) := by
  obtain ⟨bytes, _ | failure⟩ := source
  · by_cases large : machine.programLimit < bytes.length
    · rw [Machine.loadProgram_of_lt large]
      simp only [loadProgram, bind_assoc, runOn_get_bind, if_pos large]
      rfl
    · rw [Machine.loadProgram_of_le (Nat.not_lt.mp large)]
      simp only [loadProgram, bind_assoc, runOn_get_bind, if_neg large]
      rw [runOn_bind, load_eq]
      cases machine.load machine.config.start.toNat bytes with
      | ok after => rfl
      | error fault => rfl
  · rfl

/-! ## Keys and calls -/

theorem setKey_eq (machine : Machine) (number : UInt8) (down : Bool) :
    (setKey number down).runOn machine = settled machine (machine.setKey number down) := by
  rw [setKey, Machine.setKey]
  cases Machine.key number with
  | ok key => rfl
  | error fault => rfl

theorem isDown_eq (machine : Machine) (number : UInt8) :
    (isDown number).runOn machine = (machine.isDown number, machine) := by
  rw [isDown, Machine.isDown]
  cases Machine.key number with
  | ok key => rfl
  | error fault => rfl

theorem settleKey_eq (machine : Machine) (hold : KeyHold) (key : Nibble) :
    (setKey (UInt8.ofNat key) (0 < hold.remaining.get key)).runOn machine =
      settled machine (hold.settleKey machine key) := by
  rw [setKey_eq, KeyHold.settleKey]
  by_cases held : 0 < hold.remaining.get key
  · rw [if_pos held, decide_eq_true held, Machine.press]
  · rw [if_neg held, decide_eq_false held, Machine.release]

/-- Settling keys in place leads on from key to key.  A key that was refused would leave the
keys before it settled, so this is said for the settlings that are granted, and all are. -/
theorem settle_of_ok {hold : KeyHold} {keys : List Nibble}
    (granted : hold.settle machine keys = .ok after) :
    (settle hold keys).runOn machine = (.ok (), after) := by
  induction keys generalizing machine with
  | nil =>
      cases granted
      rfl
  | cons key rest induction =>
      rw [KeyHold.settle] at granted
      rw [settle, runOn_bind, settleKey_eq]
      cases first : hold.settleKey machine key with
      | ok next =>
          rw [first] at granted
          exact induction granted
      | error fault =>
          rw [first] at granted
          cases granted

theorem returnToCall_eq (machine : Machine) :
    returnToCall.runOn machine = settled machine machine.returnToCall := by
  rw [returnToCall, runOn_bind, popCall?, runOn_get_bind, Machine.returnToCall]
  cases machine.calls with
  | nil => rfl
  | cons caller earlier => rfl

/-! ## Registers and pixels -/

theorem putRegisters_eq (machine : Machine) (number : Nat) (values : List UInt8) :
    (putRegisters number values).runOn machine =
      (.ok (), { machine with
        registers := Machine.overwriteRegisters machine.registers number values }) := by
  induction values generalizing machine number with
  | nil => rfl
  | cons value rest induction =>
      rw [putRegisters, runOn_update_bind, induction]
      rfl

/-- A row toggles the cells under its set bits. -/
theorem drawRow_eq (machine : Machine) (x y : Nat) (row : UInt8) (switchedOff : Bool)
    (columns : List Nat) :
    let cells := (columns.filter fun column => row.toNat.testBit (7 - column)).map
      fun column => (x + column, y)
    (drawRow x y row switchedOff columns).runOn machine =
      (.ok (switchedOff || (machine.screen.toggleAll cells).2),
        { machine with screen := (machine.screen.toggleAll cells).1 }) := by
  induction columns generalizing machine switchedOff with
  | nil => simp [drawRow, Screen.toggleAll]
  | cons column rest induction =>
      have now : (xorPixel (x + column) y (row.toNat.testBit (7 - column))).runOn machine =
          (.ok (machine.screen.xor (x + column) y (row.toNat.testBit (7 - column))).2,
            { machine with
              screen := (machine.screen.xor (x + column) y (row.toNat.testBit (7 - column))).1 }) :=
        rfl
      rw [drawRow, runOn_bind_of_ok now]
      cases bit : row.toNat.testBit (7 - column) with
      | false => simp [bit, Screen.xor, induction]
      | true => simp [bit, Screen.xor, induction, Screen.toggleAll, Bool.or_assoc]

theorem drawRows_eq (machine : Machine) (x y : Nat) (switchedOff : Bool) (rows : List UInt8) :
    (drawRows x y switchedOff rows).runOn machine =
      (.ok (switchedOff || (machine.screen.draw x y rows).2),
        { machine with screen := (machine.screen.draw x y rows).1 }) := by
  induction rows generalizing machine y switchedOff with
  | nil => simp [drawRows, Screen.draw, Screen.litCells, Screen.toggleAll]
  | cons row rest induction =>
      have now := drawRow_eq machine x y row switchedOff (List.range 8)
      rw [drawRows, runOn_bind_of_ok now, induction]
      simp [Screen.draw, Screen.litCells, Screen.toggleAll_append, Screen.litColumns, Bool.or_assoc]

theorem drawFrom_eq (machine : Machine) (x y address rows : Nat) :
    (drawFrom x y address rows).runOn machine =
      match machine.screen.drawFrom x y machine.memory.bytes address rows with
      | .ok (screen, collision) => (.ok collision, { machine with screen })
      | .error fault => (.error fault, machine) := by
  rw [drawFrom, runOn_get_bind, Screen.drawFrom]
  cases Span.check ⟨address, rows⟩ machine.memory.bytes.size with
  | ok _ =>
      rw [runOn_demand_ok_bind, drawRows_eq, Bool.false_or]
      rfl
  | error fault => rfl

end InPlace

end Chip8

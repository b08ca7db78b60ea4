import Chip8.Proofs.InPlace

/-!
# Instructions in place

In place an instruction is given to the handler of its layout.  The handler changes the
machine write by write, and then says how the program counter moves on, which happens last of
all.  A handler that does not know what is left of the word says so instead, and then the word
is marked as no instruction.

The six handlers share the conclusion, so each is compared together with it: what it leads
to is what the operation of the instruction leads to.
-/

namespace Chip8

/-- How the program counter moves once a handler is done. -/
inductive Advance where
  /-- To the following instruction. -/
  | next
  /-- Behind the following instruction. -/
  | skip
  /-- Not at all. -/
  | stay
deriving Repr, DecidableEq

namespace Advance

/-- Leave out the following instruction if a condition holds. -/
def skipIf (condition : Bool) : Advance :=
  if condition then .skip else .next

/-- How far the program counter moves. -/
def increment : Advance → UInt16
  | .next => 2
  | .skip => 4
  | .stay => 0

/-- The machine with its program counter moved on. -/
def move (advance : Advance) (machine : Machine) : Machine :=
  { machine with pc := machine.pc + advance.increment }

@[simp]
theorem move_stay (machine : Machine) : Advance.stay.move machine = machine := by
  show { machine with pc := machine.pc + 0 } = machine
  rw [UInt16.add_zero]

@[simp]
theorem move_skipIf (machine : Machine) (condition : Bool) :
    (skipIf condition).move machine = machine.skipIf condition := by
  cases condition with
  | false => rfl
  | true =>
      have twice : machine.pc + 2 + 2 = machine.pc + 4 := UInt16.add_assoc machine.pc 2 2
      show { machine with pc := machine.pc + 4 } = { machine with pc := machine.pc + 2 + 2 }
      rw [twice]

end Advance

namespace InPlace

/-! ## Handlers -/

/-- Handle an instruction that is nothing but a selector. -/
def bare : Fin 4096 → InPlace (Option Advance)
  | 0x0E0 => do
      update fun machine => { machine with screen := machine.screen.clear }
      return some .next
  | 0x0EE => do
      returnToCall
      return some .next
  | _ => return none

/-- Handle an instruction with an address. -/
def address (target : UInt16) : AddressFamily → InPlace (Option Advance)
  | .jump => do
      update fun machine => { machine with pc := target }
      return some .stay
  | .call => do
      callAt target
      return some .stay
  | .index => do
      update fun machine => { machine with index := target }
      return some .next
  | .offset => do
      update fun machine => { machine with pc := target + (machine.register 0).toUInt16 }
      return some .stay

/-- Handle an instruction with a register and a byte. -/
def immediate (x : Register) (kk : UInt8) (family : ImmediateFamily) :
    InPlace (Option Advance) := do
  let first := (← get).register x
  match family with
  | .skipEqual => return some (.skipIf (first = kk))
  | .skipUnequal => return some (.skipIf (first ≠ kk))
  | .load => do
      setRegister x kk
      return some .next
  | .add => do
      setRegister x (first + kk)
      return some .next
  | .random => do
      let byte ← drawByte
      setRegister x (byte &&& kk)
      return some .next

/-- Combine two bytes into a register, and then set the flag. -/
def calculate (x : Register) (first second : UInt8) (selector : Nibble) :
    InPlace (Option Advance) := do
  match Arithmetic.ofSelector? selector with
  | none => return none
  | some op => do
      setRegister x (op.result first second)
      match op.flag? first second with
      | some flag => setFlag flag
      | none => pure ()
      return some .next

/-- Handle an instruction with two registers.  Both are read before anything is written. -/
def pair (x y : Register) (family : PairFamily) (selector : Nibble) :
    InPlace (Option Advance) := do
  let machine ← get
  let first := machine.register x
  let second := machine.register y
  match family, selector with
  | .skipEqual, 0 => return some (.skipIf (first = second))
  | .skipUnequal, 0 => return some (.skipIf (first ≠ second))
  | .arithmetic, selector => calculate x first second selector
  | _, _ => return none

/-- Handle an instruction with one register. -/
def single (x : Register) (family : SingleFamily) (selector : UInt8) :
    InPlace (Option Advance) := do
  let machine ← get
  let value := machine.register x
  match family, selector with
  | .keypad, 0x9E => do
      let down ← isDown value
      return some (.skipIf down)
  | .keypad, 0xA1 => do
      let down ← isDown value
      return some (.skipIf (!down))
  | .system, 0x07 => do
      setRegister x machine.delay.value
      return some .next
  | .system, 0x0A => do
      update fun machine => { machine with waiting := some x }
      return some .stay
  | .system, 0x15 => do
      update fun machine => machine.setDelay value
      return some .next
  | .system, 0x18 => do
      update fun machine => machine.setSound value
      return some .next
  | .system, 0x1E => do
      update fun machine => { machine with index := machine.index + value.toUInt16 }
      return some .next
  | .system, 0x29 => do
      update fun machine => { machine with index := machine.glyphAddress value }
      return some .next
  | .system, 0x33 => do
      load machine.index.toNat (Machine.decimalDigits value)
      return some .next
  | .system, 0x55 => do
      load machine.index.toNat (machine.registersThrough x)
      return some .next
  | .system, 0x65 => do
      let data ← demand (machine.memory.read machine.index.toNat (x + 1))
      putRegisters 0 data
      return some .next
  | _, _ => return none

/-- Handle the sprite instruction: draw, and then set the flag. -/
def sprite (x y : Register) (n : Nibble) : InPlace (Option Advance) := do
  let machine ← get
  let collision ← drawFrom (machine.register x).toNat (machine.register y).toNat
    machine.index.toNat n
  setFlag collision
  return some .next

/-- Give an instruction to the handler of its layout. -/
def dispatch : Instruction → InPlace (Option Advance)
  | .bare selector => bare selector
  | .address family nnn => address (UInt16.ofNat nnn) family
  | .single family x selector => single x family selector
  | .immediate family x kk => immediate x kk family
  | .pair family x y selector => pair x y family selector
  | .sprite x y n => sprite x y n

/-! ## Executing -/

/-- Move the program counter on after a handler, or mark a word that none of them knew. -/
def conclude (word address : UInt16) : Option Advance → InPlace Unit
  | some advance => update advance.move
  | none => do
      update fun machine => { machine with unhandled := true }
      throw (.unrecognized word address)

/-- Execute the instruction at the program counter. -/
def execute : InPlace Unit := do
  update fun machine => { machine with unhandled := false }
  let machine ← get
  let word ← demand machine.fetch
  let advance? ← dispatch (Instruction.ofWord word)
  conclude word machine.pc advance?

/-! ## Handlers and operations -/

/-- Where a word leads that stands for the given operation, or for none. -/
def attempted (machine : Machine) (word address : UInt16) :
    Option Operation → Except Fault Unit × Machine
  | some operation => settled machine (machine.perform operation)
  | none => (.error (.unrecognized word address), { machine with unhandled := true })

section Handlers

variable (machine : Machine) (word origin : UInt16)

@[simp]
theorem runOn_conclude_some (advance : Advance) :
    (conclude word origin (some advance)).runOn machine = (.ok (), advance.move machine) :=
  rfl

@[simp]
theorem runOn_conclude_none :
    (conclude word origin none).runOn machine = attempted machine word origin none :=
  rfl

section Endings

variable {machine word origin}
variable {computation : InPlace Unit} {result : Except Fault Machine}

/-- What a handler changed before it moves on to the following instruction. -/
theorem runOn_next (changed : computation.runOn machine = settled machine result) :
    ((do computation; return some Advance.next) >>= conclude word origin).runOn machine =
      settled machine (do return (← result).next) := by
  rw [bind_assoc, runOn_bind, changed]
  cases result with
  | ok after => rfl
  | error fault => rfl

/-- What a handler changed before it leaves the program counter alone. -/
theorem runOn_stay (result : Except Fault Machine)
    (changed : computation.runOn machine = settled machine result) :
    ((do computation; return some Advance.stay) >>= conclude word origin).runOn machine =
      settled machine result := by
  rw [bind_assoc, runOn_bind, changed]
  cases result with
  | ok after =>
      show (Except.ok (), Advance.stay.move after) = _
      rw [Advance.move_stay]
      rfl
  | error fault => rfl

/-- A handler that skips changes nothing else. -/
theorem runOn_skipIf (condition : Bool) :
    (pure (some (Advance.skipIf condition)) >>= conclude word origin).runOn machine =
      settled machine (.ok (machine.skipIf condition)) := by
  rw [pure_bind, runOn_conclude_some, Advance.move_skipIf]
  rfl

/-- A handler that skips by a key may find that there is no such key. -/
theorem runOn_skipIf_key (number : UInt8) (test : Bool → Bool) :
    ((do let down ← isDown number; return some (Advance.skipIf (test down))) >>=
        conclude word origin).runOn machine =
      settled machine (do return machine.skipIf (test (← machine.isDown number))) := by
  rw [bind_assoc, runOn_bind, isDown_eq]
  cases machine.isDown number with
  | ok down => exact runOn_skipIf (test down)
  | error fault => rfl

end Endings

theorem bare_eq (selector : Fin 4096) :
    (bare selector >>= conclude word origin).runOn machine =
      attempted machine word origin (Operation.ofInstruction? (.bare selector)) := by
  unfold bare
  split
  · rfl
  · exact runOn_next (returnToCall_eq machine)
  · next notClear notReturn =>
      rw [Operation.ofInstruction?, pure_bind, runOn_conclude_none]
      · exact notClear
      · exact notReturn

theorem address_eq (family : AddressFamily) (nnn : Fin 4096) :
    (address (UInt16.ofNat nnn) family >>= conclude word origin).runOn machine =
      attempted machine word origin (Operation.ofInstruction? (.address family nnn)) := by
  cases family with
  | index => rfl
  | jump => exact runOn_stay (.ok _) rfl
  | call => exact runOn_stay (.ok _) rfl
  | offset => exact runOn_stay (.ok _) rfl

theorem immediate_eq (family : ImmediateFamily) (x : Register) (kk : UInt8) :
    (immediate x kk family >>= conclude word origin).runOn machine =
      attempted machine word origin (Operation.ofInstruction? (.immediate family x kk)) := by
  rw [immediate, bind_assoc, runOn_get_bind]
  cases family with
  | load => rfl
  | add => rfl
  | random => rfl
  | skipEqual => exact runOn_skipIf _
  | skipUnequal => exact runOn_skipIf _

theorem calculate_eq (x y : Register) (selector : Nibble) :
    (calculate x (machine.register x) (machine.register y) selector >>=
        conclude word origin).runOn machine =
      attempted machine word origin
        ((Arithmetic.ofSelector? selector).map (Operation.combine · x y)) := by
  rw [calculate]
  cases Arithmetic.ofSelector? selector with
  | none => rfl
  | some op =>
      show _ = settled machine (machine.perform (.combine op x y))
      rw [Machine.perform, Machine.combine]
      dsimp only
      cases op.flag? (machine.register x) (machine.register y) with
      | none => rfl
      | some flag => rfl

theorem pair_eq (family : PairFamily) (x y : Register) (selector : Nibble) :
    (pair x y family selector >>= conclude word origin).runOn machine =
      attempted machine word origin (Operation.ofInstruction? (.pair family x y selector)) := by
  rw [pair, bind_assoc, runOn_get_bind]
  split
  · exact runOn_skipIf _
  · exact runOn_skipIf _
  · exact calculate_eq machine word origin x y selector
  · next notArithmetic notEqual notUnequal =>
      rw [Operation.ofInstruction?, pure_bind, runOn_conclude_none]
      · exact notEqual
      · exact notUnequal
      · exact notArithmetic

theorem single_eq (family : SingleFamily) (x : Register) (selector : UInt8) :
    (single x family selector >>= conclude word origin).runOn machine =
      attempted machine word origin (Operation.ofInstruction? (.single family x selector)) := by
  rw [single, bind_assoc, runOn_get_bind]
  show _ = attempted machine word origin (Operation.ofSingle? x family selector)
  dsimp only
  -- in the order of the handler: two skips by a key, the delay timer, the wait, four that set a
  -- timer or the index register, three that reach memory, and what is no instruction
  split
  · exact runOn_skipIf_key (machine.register x) id
  · exact runOn_skipIf_key (machine.register x) not
  · rfl
  · exact runOn_stay (.ok _) rfl
  · rfl
  · rfl
  · rfl
  · rfl
  · exact runOn_next (load_eq machine _ _)
  · exact runOn_next (load_eq machine _ _)
  · -- the bytes are read as a whole before the first register changes
    show _ = settled machine (machine.perform (.loadRegisters x))
    rw [Machine.perform, bind_assoc]
    cases machine.memory.read machine.index.toNat (x + 1) with
    | ok data =>
        rw [runOn_demand_ok_bind, bind_assoc, runOn_bind, putRegisters_eq]
        rfl
    | error fault => rfl
  · rw [Operation.ofSingle?, pure_bind, runOn_conclude_none]
    all_goals assumption

theorem sprite_eq (x y : Register) (n : Nibble) :
    (sprite x y n >>= conclude word origin).runOn machine =
      attempted machine word origin (Operation.ofInstruction? (.sprite x y n)) := by
  rw [sprite, bind_assoc, runOn_get_bind, bind_assoc, runOn_bind, drawFrom_eq]
  show _ = settled machine (machine.perform (.draw x y n))
  rw [Machine.perform]
  cases machine.screen.drawFrom (machine.register x).toNat (machine.register y).toNat
      machine.memory.bytes machine.index.toNat n with
  | ok drawn => rfl
  | error fault => rfl

/-- An instruction in place leads where its operation leads. -/
theorem dispatch_eq (instruction : Instruction) :
    (dispatch instruction >>= conclude word origin).runOn machine =
      attempted machine word origin (Operation.ofInstruction? instruction) := by
  cases instruction with
  | bare selector => exact bare_eq machine word origin selector
  | address family nnn => exact address_eq machine word origin family nnn
  | single family x selector => exact single_eq machine word origin family x selector
  | immediate family x kk => exact immediate_eq machine word origin family x kk
  | pair family x y selector => exact pair_eq machine word origin family x y selector
  | sprite x y n => exact sprite_eq machine word origin x y n

end Handlers

end InPlace

end Chip8

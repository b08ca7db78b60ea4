import Chip8.Instruction.Operation
import Chip8.Machine.Basic

/-!
# Executing an instruction

The word at the program counter is fetched, read as an operation and performed.
Performing an operation reads all its operands before it writes anything, and
where it sets the flag register it does so last, so the flag wins over a result
that is written there.  Every operation says itself where the program counter
goes: behind its own two bytes, behind the next instruction too, or elsewhere.

A refused operation leaves the machine as it was, but for the mark that the word
was no instruction.
-/

namespace Chip8

namespace Machine

/-! ## Small steps -/

/-- Move on to the following instruction. -/
def next (machine : Machine) : Machine :=
  { machine with pc := machine.pc + 2 }

/-- Leave out the following instruction if a condition holds. -/
def skipIf (machine : Machine) (condition : Bool) : Machine :=
  if condition then machine.next.next else machine.next

/-- Put a byte into a register. -/
def setRegister (machine : Machine) (x : Register) (value : UInt8) : Machine :=
  { machine with registers := machine.registers.setIfInBounds x value }

/-- Put one or zero into the flag register. -/
def setFlag (machine : Machine) (flag : Bool) : Machine :=
  machine.setRegister flagRegister (if flag then 1 else 0)

/-- Registers with consecutive ones replaced, starting at the given number. -/
def overwriteRegisters (registers : Registers) (number : Nat) : List UInt8 → Registers
  | [] => registers
  | value :: rest => overwriteRegisters (registers.setIfInBounds number value) (number + 1) rest

/-- The first registers, up to and including the given one. -/
def registersThrough (machine : Machine) (x : Register) : List UInt8 :=
  machine.registers.toList.take (x + 1)

/-- The three decimal digits of a byte, hundreds first. -/
def decimalDigits (value : UInt8) : List UInt8 :=
  [value / 100, value / 10 % 10, value % 10]

/-- The address of the glyph with the given number. -/
def glyphAddress (machine : Machine) (glyph : UInt8) : UInt16 :=
  UInt16.ofNat (machine.font.address.toNat + glyph.toNat * machine.font.stride)

/-! ## Operations -/

/-- Combine two registers into the first one. -/
def combine (machine : Machine) (op : Arithmetic) (x y : Register) : Machine :=
  let first := machine.register x
  let second := machine.register y
  let combined := machine.setRegister x (op.result first second)
  match op.flag? first second with
  | some flag => combined.setFlag flag
  | none => combined

/-- Perform an operation. -/
def perform (machine : Machine) : Operation → Except Fault Machine
  | .clearScreen => .ok { machine with screen := machine.screen.clear }.next
  | .endSubroutine => do return (← machine.returnToCall).next
  | .jump target => .ok { machine with pc := UInt16.ofNat target }
  | .call target => .ok (machine.callAt (UInt16.ofNat target))
  | .setIndex address => .ok { machine with index := UInt16.ofNat address }.next
  | .jumpOffset base =>
      .ok { machine with pc := UInt16.ofNat base + (machine.register 0).toUInt16 }
  | .skipIfByte x kk => .ok (machine.skipIf (machine.register x = kk))
  | .skipUnlessByte x kk => .ok (machine.skipIf (machine.register x ≠ kk))
  | .skipIfEqual x y => .ok (machine.skipIf (machine.register x = machine.register y))
  | .skipUnlessEqual x y => .ok (machine.skipIf (machine.register x ≠ machine.register y))
  | .load x kk => .ok (machine.setRegister x kk).next
  | .add x kk => .ok (machine.setRegister x (machine.register x + kk)).next
  | .random x mask =>
      .ok ({ machine with generator := machine.generator.next }.setRegister x
        (machine.generator.peek &&& mask)).next
  | .combine op x y => .ok (machine.combine op x y).next
  | .skipIfKey x => do return machine.skipIf (← machine.isDown (machine.register x))
  | .skipUnlessKey x => do return machine.skipIf (!(← machine.isDown (machine.register x)))
  | .readDelay x => .ok (machine.setRegister x machine.delay.value).next
  | .awaitKey x => .ok { machine with waiting := some x }
  | .setDelay x => .ok (machine.setDelay (machine.register x)).next
  | .setSound x => .ok (machine.setSound (machine.register x)).next
  | .addIndex x =>
      .ok { machine with index := machine.index + (machine.register x).toUInt16 }.next
  | .pointAtGlyph x =>
      .ok { machine with index := machine.glyphAddress (machine.register x) }.next
  | .storeDecimal x => do
      return (← machine.load machine.index.toNat (decimalDigits (machine.register x))).next
  | .storeRegisters x => do
      return (← machine.load machine.index.toNat (machine.registersThrough x)).next
  | .loadRegisters x => do
      let data ← machine.memory.read machine.index.toNat (x + 1)
      return { machine with registers := overwriteRegisters machine.registers 0 data }.next
  | .draw x y n => do
      let (screen, collision) ← machine.screen.drawFrom (machine.register x).toNat
        (machine.register y).toNat machine.memory.bytes machine.index.toNat n
      return ({ machine with screen }.setFlag collision).next

/-! ## Instructions -/

/-- The word at the program counter. -/
def fetch (machine : Machine) : Except Fault UInt16 :=
  machine.memory.word machine.pc.toNat

/-- Fetch an operation and perform it. -/
def step (machine : Machine) : Except Fault Machine := do
  let word ← machine.fetch
  match Operation.ofWord? word with
  | some operation => machine.perform operation
  | none => .error (.unrecognized word machine.pc)

end Machine

/-- Where an attempt left the machine, and why it ended early if it did. -/
structure Outcome where
  /-- The machine afterwards. -/
  machine : Machine
  /-- The fault that ended the attempt. -/
  fault? : Option Fault

/-- Whether the fault says that a word is no instruction. -/
def Fault.isUnrecognized : Fault → Bool
  | .unrecognized .. => true
  | _ => false

/-- Execute the instruction at the program counter. -/
def Machine.execute (machine : Machine) : Outcome :=
  match machine.step with
  | .ok after => ⟨{ after with unhandled := false }, none⟩
  | .error fault => ⟨{ machine with unhandled := fault.isUnrecognized }, some fault⟩

end Chip8

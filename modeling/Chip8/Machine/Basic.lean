import Chip8.Breakpoint
import Chip8.Countdown
import Chip8.Font
import Chip8.Generator
import Chip8.Instruction.Basic
import Chip8.Machine.Config
import Chip8.Screen

/-!
# The machine

A machine is everything that an instruction can see or change, together with the
breakpoints that a debugger puts into it.  This module holds the state, the way
it is built, and the operations that reach it from outside: loading, keys, calls,
timers and breakpoints.  A refused operation gives back a fault and no machine,
so the caller goes on with the one it had.  `InPlace` has the same operations on a
machine that is changed write by write, where a late fault would leave its trace.
-/

namespace Chip8

/-! ## State -/

/-- The values of the sixteen registers. -/
abbrev Registers := Vector UInt8 16

/-- Whether each of the sixteen keys is down. -/
abbrev Keypad := Vector Bool 16

/-- Where a font lies in memory. -/
structure FontPlace where
  /-- The address of the first glyph. -/
  address : UInt16
  /-- The distance between two glyphs. -/
  stride : Nat
deriving Repr, DecidableEq

/-- The state of a machine. -/
structure Machine where
  /-- The shape that it was built with. -/
  config : Config
  /-- The memory, which holds the program, its data and the font. -/
  memory : Memory
  /-- The screen. -/
  screen : Screen
  /-- The program counter, the address of the instruction to come. -/
  pc : UInt16
  /-- The index register, which addresses memory. -/
  index : UInt16
  /-- The registers. -/
  registers : Registers
  /-- The addresses of the calls that are open, the latest first. -/
  calls : List UInt16
  /-- The timer that a program reads. -/
  delay : Countdown
  /-- The timer that sounds while it is not zero. -/
  sound : Countdown
  /-- The keys that are down. -/
  keys : Keypad
  /-- The register that waits for a key. -/
  waiting : Option Register
  /-- The font that was loaded last. -/
  font : FontPlace
  /-- The random bytes to come. -/
  generator : Generator
  /-- The breakpoints. -/
  breakpoints : Breakpoints
  /-- The word executed last was no instruction. -/
  unhandled : Bool

namespace Machine

/-- The register that takes the flag of an operation. -/
def flagRegister : Register := 0xF

/-- The value of a register. -/
def register (machine : Machine) (x : Register) : UInt8 :=
  machine.registers.get x

/-! ## Loading -/

/-- Write bytes into memory. -/
def load (machine : Machine) (address : Nat) (data : List UInt8) : Except Fault Machine := do
  return { machine with memory := ← machine.memory.write address data }

/-- Write a font into memory and look up glyphs there from now on. -/
def loadFont (machine : Machine) (address : UInt16) (font : Font) : Except Fault Machine := do
  return { machine with
    memory := ← machine.memory.writeFont address.toNat font
    font := { address, stride := font.stride } }

/-- What came out of a source of program bytes. -/
structure ProgramSource where
  /-- The bytes up to the end or the failure. -/
  bytes : List UInt8
  /-- Why the source broke off, unless it came to its end. -/
  failure : Option ReadFailure

/-- The bytes that fit into memory from the start address on. -/
def programLimit (machine : Machine) : Nat :=
  machine.memory.size - machine.config.start.toNat

/-- Write a program at the start address and count its bytes.  A source that broke
off loads nothing. -/
def loadProgram (machine : Machine) (source : ProgramSource) : Except Fault (Machine × Nat) :=
  match source.failure with
  | some failure => .error (.unreadable failure)
  | none =>
      if machine.programLimit < source.bytes.length then
        .error (.oversizedProgram source.bytes.length machine.programLimit)
      else do
        return (← machine.load machine.config.start.toNat source.bytes, source.bytes.length)

/-! ## Building -/

/-- A machine of the given shape with the hexadecimal digits as its font and
everything else at rest.  Its memory may have any size here; `Guarded.build` also
asks whether the memory can be had. -/
def build (config : Config) (source : RandomSource) : Except Fault Machine := do
  let screen ← Screen.blank config.width config.height config.wraps
  let machine : Machine :=
    { config, screen
      memory := Memory.blank config.memorySize
      pc := config.start
      index := 0
      registers := Vector.replicate 16 0
      calls := []
      delay := Countdown.ofRate Countdown.defaultRate
      sound := Countdown.ofRate Countdown.defaultRate
      keys := Vector.replicate 16 false
      waiting := none
      font := { address := 0, stride := 0 }
      generator := source.generator config.seed
      breakpoints := Breakpoints.empty
      unhandled := false }
  machine.loadFont config.fontStart Font.hexadecimal

/-! ## Keys -/

/-- The key with the given number. -/
def key (number : UInt8) : Except Fault Nibble :=
  if valid : number.toNat < 16 then .ok ⟨number.toNat, valid⟩
  else .error (.noSuchKey number)

/-- Put a key down or up. -/
def setKey (machine : Machine) (number : UInt8) (down : Bool) : Except Fault Machine := do
  let key ← key number
  return { machine with keys := machine.keys.setIfInBounds key down }

/-- Put a key down. -/
def press (machine : Machine) (number : UInt8) : Except Fault Machine :=
  machine.setKey number true

/-- Put a key up. -/
def release (machine : Machine) (number : UInt8) : Except Fault Machine :=
  machine.setKey number false

/-- Whether a key is down. -/
def isDown (machine : Machine) (number : UInt8) : Except Fault Bool := do
  let key ← key number
  return machine.keys.get key

/-- The lowest key that is down. -/
def lowestKey? (machine : Machine) : Option Nibble :=
  machine.keys.finIdxOf? true

/-! ## Calls -/

/-- Continue at an address and remember where that was asked for. -/
def callAt (machine : Machine) (target : UInt16) : Machine :=
  { machine with calls := machine.pc :: machine.calls, pc := target }

/-- Continue where the latest call was asked for. -/
def returnToCall (machine : Machine) : Except Fault Machine :=
  match machine.calls with
  | [] => .error (.emptyStack machine.pc)
  | caller :: earlier => .ok { machine with calls := earlier, pc := caller }

/-! ## Timers -/

/-- Set the delay timer. -/
def setDelay (machine : Machine) (value : UInt8) : Machine :=
  { machine with delay := machine.delay.set value }

/-- Set the sound timer. -/
def setSound (machine : Machine) (value : UInt8) : Machine :=
  { machine with sound := machine.sound.set value }

/-- Let machine time pass for both timers. -/
def advanceTimers (machine : Machine) (dt : Float) : Machine :=
  { machine with delay := machine.delay.advance dt, sound := machine.sound.advance dt }

/-! ## Breakpoints -/

/-- Put in a breakpoint, which replaces one at the same address. -/
def addBreakpoint (machine : Machine) (breakpoint : Breakpoint) : Machine :=
  { machine with breakpoints := machine.breakpoints.insert breakpoint }

/-- Take out the breakpoint at an address. -/
def removeBreakpoint (machine : Machine) (address : UInt16) : Machine :=
  { machine with breakpoints := machine.breakpoints.erase address }

/-- Take out the breakpoint at an address and give it back, if there is one. -/
def takeBreakpoint (machine : Machine) (address : UInt16) : Option Breakpoint × Machine :=
  (machine.breakpoints.get? address, machine.removeBreakpoint address)

/-- The breakpoint at the program counter. -/
def breakpointHere? (machine : Machine) : Option Breakpoint :=
  machine.breakpoints.get? machine.pc

end Machine

end Chip8

import Chip8.Machine.Basic

/-!
# Snapshots

A snapshot is what a debugger shows of a machine: the next word, the registers,
the timers, the open calls and the keys.  Its report has seven lines of labelled
values.  All numbers are hexadecimal, the calls stand in the order in which they
were made, and only keys that are down are listed.
-/

namespace Chip8

/-- What a debugger shows of a machine. -/
structure Snapshot where
  /-- The program counter. -/
  pc : UInt16
  /-- The word at the program counter, zero if it points outside memory. -/
  nextWord : UInt16
  /-- The registers. -/
  registers : Registers
  /-- The index register. -/
  index : UInt16
  /-- The value of the delay timer. -/
  delay : UInt8
  /-- The value of the sound timer. -/
  sound : UInt8
  /-- The addresses of the open calls, the earliest first. -/
  calls : List UInt16
  /-- Whether each key is down. -/
  keys : Keypad
deriving DecidableEq

/-- What a debugger shows of the machine. -/
def Machine.snapshot (machine : Machine) : Snapshot where
  pc := machine.pc
  nextWord :=
    match machine.memory.word machine.pc.toNat with
    | .ok word => word
    | .error _ => 0
  registers := machine.registers
  index := machine.index
  delay := machine.delay.value
  sound := machine.sound.value
  calls := machine.calls.reverse
  keys := machine.keys

namespace Snapshot

/-! ## Parts of the report -/

/-- The keys that are down, in ascending order. -/
def keysDown (snapshot : Snapshot) : List Nibble :=
  (List.finRange 16).filter fun key => snapshot.keys.get key

/-- The digits of the keys that are down. -/
def keysText (snapshot : Snapshot) : String :=
  String.join (snapshot.keysDown.map fun (key : Nibble) => Hex.text 1 key.val)

/-- The open calls, separated by commas. -/
def callsText (snapshot : Snapshot) : String :=
  String.intercalate ", " (snapshot.calls.map fun address => Hex.marked 3 address.toNat)

/-- The registers, separated by spaces. -/
def registersText (snapshot : Snapshot) : String :=
  String.intercalate " " (snapshot.registers.toList.map fun value => Hex.text 2 value.toNat)

/-! ## The report -/

/-- The lines of the report. -/
def lines (snapshot : Snapshot) : List String :=
  ["== state ==",
   "PC       : " ++ Hex.marked 4 snapshot.nextWord.toNat ++ " @ " ++ Hex.marked 3 snapshot.pc.toNat,
   "I        : " ++ Hex.marked 3 snapshot.index.toNat,
   "timers   : DT=" ++ Hex.text 2 snapshot.delay.toNat ++ " ST=" ++ Hex.text 2 snapshot.sound.toNat,
   "stack    : [" ++ snapshot.callsText ++ "]",
   "registers: " ++ snapshot.registersText,
   "keys     : [" ++ snapshot.keysText ++ "]"]

/-- The report, with a line feed after each line. -/
def report (snapshot : Snapshot) : String :=
  String.join (snapshot.lines.map (· ++ "\n"))

end Snapshot

end Chip8

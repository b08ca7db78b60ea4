import Chip8.Instruction.Basic

/-!
# Instructions in buffers

An instruction takes two bytes of a buffer, the more significant one first.  It
can be read and written wherever both bytes lie inside the buffer.
-/

namespace Chip8.Instruction

/-- The number of bytes that an instruction takes in memory. -/
def length : Nat := 2

/-- The instruction whose word stands at an offset of a buffer. -/
def readAt (buffer : Array UInt8) (offset : Nat) : Except Fault Instruction :=
  match buffer[offset]?, buffer[offset + 1]? with
  | some high, some low => .ok (ofWord (Word.ofBytes high low))
  | _, _ => .error (.outsideMemory offset length buffer.size)

/-- The buffer with the instruction's word written at an offset. -/
def writeAt (instruction : Instruction) (buffer : Array UInt8) (offset : Nat) :
    Except Fault (Array UInt8) :=
  if within : offset + 1 < buffer.size then
    .ok ((buffer.set offset (Word.high instruction.word)).set (offset + 1)
      (Word.low instruction.word) (by simpa using within))
  else .error (.outsideMemory offset length buffer.size)

end Chip8.Instruction

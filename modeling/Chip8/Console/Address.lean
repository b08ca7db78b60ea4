import Chip8.Text.Numeral
import Chip8.Text.Quoted

/-!
# Addresses in text

An address is written in hexadecimal digits.  Any number of marks `0x` may stand
in front of it, and after them any number of marks `0X`.
-/

namespace Chip8

/-- A text that is no address. -/
structure AddressFault where
  /-- The text. -/
  text : String
  /-- What is wrong with its digits. -/
  cause : Numeral.Fault
deriving Repr, DecidableEq

/-- The fault in words. -/
def AddressFault.message (fault : AddressFault) : String :=
  "bad address " ++ Text.quoted fault.text ++ ": " ++ fault.cause.message

namespace Address

/-- A text without the marks in front of it, each a zero and the given letter. -/
def dropMarks (letter : Char) : List Char → List Char
  | [] => []
  | [c] => [c]
  | zero :: c :: rest =>
      if zero = '0' ∧ c = letter then dropMarks letter rest else zero :: c :: rest

/-- The address that a text stands for. -/
def read (text : String) : Except AddressFault UInt16 :=
  match Numeral.read 16 0xFFFF (dropMarks 'X' (dropMarks 'x' text.toList)) with
  | .ok address => .ok (UInt16.ofNat address)
  | .error cause => .error { text, cause }

end Address

end Chip8

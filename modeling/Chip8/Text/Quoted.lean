import Chip8.Text.Hex
import Chip8.Text.Visible

/-!
# Quoted text

A message repeats a text that it complains about between quotation marks, on
one line and without loss.  A quotation mark and a backslash get a backslash.
Tab, line feed, carriage return and the null character are written by letter.
Any other character that is not visible is written by its number, and every
visible one stands for itself.
-/

namespace Chip8.Text

/-- How one character is written between quotation marks. -/
def quote (c : Char) : List Char :=
  if c = '"' then ['\\', '"']
  else if c = '\\' then ['\\', '\\']
  else if c = '\t' then ['\\', 't']
  else if c = '\n' then ['\\', 'n']
  else if c = '\r' then ['\\', 'r']
  else if c = '\x00' then ['\\', '0']
  else if isVisible c then [c]
  else ['\\', 'u', '\x7b'] ++ Hex.small c.toNat ++ ['\x7d']

/-- The text between quotation marks. -/
def quoted (s : String) : String :=
  String.ofList (['"'] ++ s.toList.flatMap quote ++ ['"'])

end Chip8.Text

import Chip8.Console.Control

/-!
# Key bindings

Key bindings say which control a character of the host keyboard stands for.  The
two cases of an ASCII letter are one key, and all other characters are told
apart.  Of several bindings of a key the latest counts.
-/

namespace Chip8

/-- The character that stands for both cases of an ASCII letter. -/
def foldCase (c : Char) : Char :=
  c.toLower

/-- Bindings of characters to controls. -/
structure KeyBindings where
  /-- Folded characters with their controls, the latest binding first. -/
  entries : List (Char × Control)
deriving Repr, DecidableEq

namespace KeyBindings

/-- No bindings. -/
def empty : KeyBindings :=
  ⟨[]⟩

/-- The bindings with one more. -/
def bind (bindings : KeyBindings) (c : Char) (control : Control) : KeyBindings :=
  ⟨(foldCase c, control) :: bindings.entries⟩

/-- The given bindings, made one after another. -/
def ofList (entries : List (Char × Control)) : KeyBindings :=
  entries.foldl (fun bindings entry => bindings.bind entry.1 entry.2) empty

/-- The control that a character stands for. -/
def get? (bindings : KeyBindings) (c : Char) : Option Control :=
  bindings.entries.lookup (foldCase c)

/-- The controls that the characters of a text stand for; other characters stand
for nothing. -/
def batch (bindings : KeyBindings) (text : String) : Batch :=
  text.toList.filterMap bindings.get?

/-- The keypad on the left side of the host keyboard, and three keys for the
session. -/
def standard : KeyBindings :=
  ofList
    [('x', .key 0x0), ('1', .key 0x1), ('2', .key 0x2), ('3', .key 0x3),
     ('q', .key 0x4), ('w', .key 0x5), ('e', .key 0x6), ('a', .key 0x7),
     ('s', .key 0x8), ('d', .key 0x9), ('z', .key 0xA), ('c', .key 0xB),
     ('4', .key 0xC), ('r', .key 0xD), ('f', .key 0xE), ('v', .key 0xF),
     (' ', .pause), ('h', .quit), ('i', .step)]

end KeyBindings

end Chip8

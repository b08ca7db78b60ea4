import Chip8.Memory

/-!
# Fonts

A font is a list of glyphs, and a glyph is a sprite with one byte for each row.
In memory the glyphs stand one stride apart, and the stride is the height of the
tallest glyph.  Bytes between a short glyph and the next one keep their value.
Nothing is written unless a whole stride fits for every glyph.
-/

namespace Chip8

/-- The rows of one glyph, from the top. -/
abbrev Glyph := List UInt8

/-- The glyphs of a font in the order of their numbers. -/
abbrev Font := List Glyph

namespace Font

/-- The height of the tallest glyph, zero for a font without glyphs. -/
def stride (font : Font) : Nat :=
  font.foldl (fun height glyph => max height glyph.length) 0

/-- The number of bytes that the font takes in memory. -/
def extent (font : Font) : Nat :=
  font.length * font.stride

/-- Bytes with the glyphs written one stride apart, starting at the address. -/
def place (bytes : Array UInt8) (address stride : Nat) : Font → Array UInt8
  | [] => bytes
  | glyph :: rest =>
      place (Memory.overwrite bytes address glyph) (address + stride) stride rest

/-- The hexadecimal digits, five rows each. -/
def hexadecimal : Font :=
  [[0xF0, 0x90, 0x90, 0x90, 0xF0],
   [0x20, 0x60, 0x20, 0x20, 0x70],
   [0xF0, 0x10, 0xF0, 0x80, 0xF0],
   [0xF0, 0x10, 0xF0, 0x10, 0xF0],
   [0x90, 0x90, 0xF0, 0x10, 0x10],
   [0xF0, 0x80, 0xF0, 0x10, 0xF0],
   [0xF0, 0x80, 0xF0, 0x90, 0xF0],
   [0xF0, 0x10, 0x20, 0x40, 0x40],
   [0xF0, 0x90, 0xF0, 0x90, 0xF0],
   [0xF0, 0x90, 0xF0, 0x10, 0xF0],
   [0xF0, 0x90, 0xF0, 0x90, 0x90],
   [0xE0, 0x90, 0xE0, 0x90, 0xE0],
   [0xF0, 0x80, 0x80, 0x80, 0xF0],
   [0xE0, 0x90, 0x90, 0x90, 0xE0],
   [0xF0, 0x80, 0xF0, 0x80, 0xF0],
   [0xF0, 0x80, 0xF0, 0x80, 0x80]]

theorem extent_hexadecimal : hexadecimal.extent = 80 := rfl

end Font

/-- Memory with a font written at the address. -/
def Memory.writeFont (memory : Memory) (address : Nat) (font : Font) : Except Fault Memory := do
  Span.check ⟨address, font.extent⟩ memory.size
  return ⟨font.place memory.bytes address font.stride⟩

end Chip8

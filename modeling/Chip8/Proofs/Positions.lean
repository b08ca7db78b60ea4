import Chip8.Console.Canvas
import Chip8.Proofs.Pixels
import Mathlib.Data.List.Nodup
import Mathlib.Data.List.Perm.Basic

/-!
# Positions on a display

A display is shown the positions of the pixels that are on and of those that are off.  Both
come out of one walk through the numbers below the number of pixels, which are split into a
row and a column by division.  This undoes the index of a position, so the walk meets every
position once, row by row.

Each position goes to one of the two lists, by its pixel.  So the two together hold every
position once, and the first is as long as there are pixels that are on.
-/

namespace Chip8.Screen

variable {screen : Screen}

/-! ## The walk -/

end Chip8.Screen

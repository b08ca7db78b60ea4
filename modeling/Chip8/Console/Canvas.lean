import Chip8.Screen

/-!
# Canvas

A canvas has real coordinates, one unit for each pixel, with the first pixel at
the origin.  Columns grow to the right as on the screen.  Rows grow downward on
the screen and upward on a canvas, so a canvas row is the negative of a screen
row, and the top row is at negative zero.
-/

namespace Chip8

namespace Screen

/-- The positions of the pixels that are on, or of those that are off, row by row
from the top. -/
def cells (screen : Screen) (lit : Bool) : List (Nat × Nat) :=
  screen.positions.filter fun position => screen.pixel position.1 position.2 = lit

end Screen

/-- The plane on which a screen is painted. -/
structure Canvas where
  /-- Columns of the screen. -/
  width : Nat
  /-- Rows of the screen. -/
  height : Nat
deriving Repr, DecidableEq

namespace Canvas

/-- The canvas of a screen. -/
def ofScreen (screen : Screen) : Canvas :=
  { width := screen.width, height := screen.height }

/-- The number of pixels that the canvas shows. -/
def pixelCount (canvas : Canvas) : Nat :=
  canvas.width * canvas.height

/-- The canvas coordinate of a row. -/
def rowCoordinate (row : Nat) : Float :=
  -1.0 * row.toFloat

/-- The canvas coordinate of a column. -/
def columnCoordinate (column : Nat) : Float :=
  column.toFloat

/-- The coordinates of the first and the last column. -/
def xBounds (canvas : Canvas) : Float × Float :=
  (0.0, columnCoordinate (canvas.width - 1))

/-- The coordinates of the last and the first row. -/
def yBounds (canvas : Canvas) : Float × Float :=
  (rowCoordinate (canvas.height - 1), 0.0)

/-- The canvas coordinates of the pixels that are on, or of those that are off. -/
def points (screen : Screen) (lit : Bool) : List (Float × Float) :=
  (screen.cells lit).map fun position =>
    (columnCoordinate position.1, rowCoordinate position.2)

end Canvas

/-! ## Pictures -/

/-- What a player sees of one frame. -/
structure Picture where
  /-- The screen. -/
  screen : Screen
  /-- The line above it. -/
  caption : String

/-- One row of the screen, a mark for each pixel that is on. -/
def Picture.rowText (picture : Picture) (row : Nat) : String :=
  String.ofList ((List.range picture.screen.width).map fun column =>
    if picture.screen.pixel column row then '#' else ' ')

/-- The picture as lines of text, the caption above the rows. -/
def Picture.text (picture : Picture) : String :=
  String.join ((picture.caption :: (List.range picture.screen.height).map picture.rowText).map
    (· ++ "\n"))

/-- What remains of the pictures that were shown. -/
structure Tally where
  /-- How many there were. -/
  frames : Nat
  /-- How many pixels of the latest were on. -/
  lit : Nat
  /-- The line above the latest. -/
  caption : String
deriving Repr, DecidableEq

namespace Tally

/-- Nothing was shown. -/
def empty : Tally :=
  { frames := 0, lit := 0, caption := "" }

/-- Take one more picture into account. -/
def record (tally : Tally) (picture : Picture) : Tally :=
  { frames := tally.frames + 1
    lit := (picture.screen.cells true).length
    caption := picture.caption }

end Tally

end Chip8

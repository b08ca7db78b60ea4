import Chip8.Span

/-!
# Screen

The screen is a grid of pixels that are on or off.  Coordinates count from the
top left corner.  A wrapping screen takes coordinates modulo its dimensions and
the other kind drops those outside.  Drawing toggles pixels: a sprite is a column
of bytes, each byte a row of eight cells with the most significant bit on the
left, and every set bit toggles the pixel under it.  A draw reports a collision
if any pixel was switched off on the way, even if a later cell of the same sprite
switched it on again.
-/

namespace Chip8

/-- A grid of pixels. -/
structure Screen where
  /-- The number of columns. -/
  width : Nat
  /-- The number of rows. -/
  height : Nat
  /-- Coordinates outside come back in on the other side. -/
  wraps : Bool
  /-- The pixels, row by row from the top. -/
  pixels : Array Bool
  /-- There is a column. -/
  width_pos : 0 < width
  /-- There is a row. -/
  height_pos : 0 < height
  /-- Every position has one pixel. -/
  size_pixels : pixels.size = width * height
deriving DecidableEq

namespace Screen

/-- A screen with every pixel off.  It may be as large as is asked for here;
`Guarded.blank` refuses one whose pixels no array holds. -/
def blank (width height : Nat) (wraps : Bool) : Except Fault Screen :=
  if positive : 0 < width ∧ 0 < height then
    .ok
      { width, height, wraps
        pixels := Array.replicate (width * height) false
        width_pos := positive.1
        height_pos := positive.2
        size_pixels := Array.size_replicate }
  else .error (.emptyScreen width height)

/-- The screen with every pixel off. -/
def clear (screen : Screen) : Screen :=
  { screen with
    pixels := Array.replicate (screen.width * screen.height) false
    size_pixels := Array.size_replicate }

/-! ## Positions -/

/-- The position on the screen that coordinates stand for, if there is one. -/
def locate? (screen : Screen) (x y : Nat) : Option (Nat × Nat) :=
  if screen.wraps then some (x % screen.width, y % screen.height)
  else if x < screen.width ∧ y < screen.height then some (x, y)
  else none

/-- Whether the pixel under the coordinates is on; off where there is none. -/
def pixel (screen : Screen) (x y : Nat) : Bool :=
  match screen.locate? x y with
  | some (column, row) => screen.pixels.getD (row * screen.width + column) false
  | none => false

/-- The number of pixels that are on. -/
def litCount (screen : Screen) : Nat :=
  screen.pixels.count true

/-- Every position, row by row from the top. -/
def positions (screen : Screen) : List (Nat × Nat) :=
  (List.range (screen.width * screen.height)).map fun i => (i % screen.width, i / screen.width)

/-! ## Toggling -/

/-- Toggle the pixel under the coordinates and tell whether that switched it
off. -/
def toggle (screen : Screen) (x y : Nat) : Screen × Bool :=
  match screen.locate? x y with
  | some (column, row) =>
      let index := row * screen.width + column
      ({ screen with
          pixels := screen.pixels.modify index not
          size_pixels := by simpa using screen.size_pixels },
        screen.pixels.getD index false)
  | none => (screen, false)

/-- Combine the pixel under the coordinates with a value by exclusive or, and
tell whether that switched it off. -/
def xor (screen : Screen) (x y : Nat) (value : Bool) : Screen × Bool :=
  if value then screen.toggle x y else (screen, false)

/-- Toggle one pixel after another and tell whether any was switched off. -/
def toggleAll (screen : Screen) : List (Nat × Nat) → Screen × Bool
  | [] => (screen, false)
  | (x, y) :: rest =>
      let (first, switchedOff) := screen.toggle x y
      let (last, switchedOffLater) := first.toggleAll rest
      (last, switchedOff || switchedOffLater)

/-! ## Sprites -/

/-- The columns of the set bits of a sprite row, from the left. -/
def litColumns (row : UInt8) : List Nat :=
  (List.range 8).filter fun column => row.toNat.testBit (7 - column)

/-- The coordinates of the set bits of a sprite with its top left corner at
`(x, y)`, row by row from the top. -/
def litCells (x y : Nat) : List UInt8 → List (Nat × Nat)
  | [] => []
  | row :: rest => (litColumns row).map (fun column => (x + column, y)) ++ litCells x (y + 1) rest

/-- Draw a sprite with its top left corner at `(x, y)` and tell of a collision. -/
def draw (screen : Screen) (x y : Nat) (rows : List UInt8) : Screen × Bool :=
  screen.toggleAll (litCells x y rows)

/-- Draw a sprite whose rows are a span of a store of bytes. -/
def drawFrom (screen : Screen) (x y : Nat) (source : Array UInt8) (address rows : Nat) :
    Except Fault (Screen × Bool) := do
  Span.check ⟨address, rows⟩ source.size
  return screen.draw x y (source.extract address (address + rows)).toList

end Screen

end Chip8

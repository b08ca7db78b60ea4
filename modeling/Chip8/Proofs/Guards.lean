import Chip8.Proofs.Fonts
import Chip8.Proofs.Registers
import Chip8.Proofs.Sprites

/-!
# Guards

Some steps cannot always be taken.  An access to an array needs an index inside it, a
sum or a product has to fit into its word, a divisor must not be zero, and a copy goes
between places of one length.  The definitions of the machine are total and do not show
this: their numbers have no bound, and an update outside of an array changes nothing.

Here memory, fonts and the screen are computed once more with each such step under a
guard.  A guarded computation comes to nothing if a guard fails.  For each of them the
guards are shown to hold, so that it comes to what the plain computation gives.  The
screen needs room for the index of a pixel in a word, and everything else needs nothing.
-/

namespace Chip8

/-- A computation under guards.  It comes to nothing if a guard fails, and to a value or
a fault otherwise. -/
abbrev Guarded (α : Type) : Type := ExceptT Fault Option α

namespace Guarded

/-- The computation comes to the result: no guard fails. -/
def ofResult {α : Type} (result : Except Fault α) : Guarded α :=
  ExceptT.mk (some result)

/-- Go on with a value that a guarded step came to. -/
theorem bind_some {α β : Type} (value : α) (continuation : α → Guarded β) :
    (liftM (some value) >>= continuation) = continuation value :=
  rfl

/-- Go on with a value that was not refused. -/
theorem bind_ok {α β : Type} (value : α) (continuation : α → Guarded β) :
    (ofResult (.ok value) >>= continuation) = continuation value :=
  rfl

/-! ## Guards -/

/-- Go on only if the condition holds. -/
def demand (condition : Prop) [Decidable condition] : Option Unit :=
  if condition then some () else none

/-- A number that one of so many values stands for. -/
def fit (values number : Nat) : Option Nat :=
  if number < values then some number else none

/-- A divisor other than zero. -/
def divisor {α : Type} [DecidableEq α] [OfNat α 0] (number : α) : Option α :=
  if number = 0 then none else some number

/-- The entries from one index up to another, both of them inside the array or at its
end. -/
def slice {α : Type} (entries : Array α) (start stop : Nat) : Option (List α) :=
  if start ≤ stop ∧ stop ≤ entries.size then some (entries.extract start stop).toList else none

/-- The number of values of a word that counts bytes or pixels. -/
def sizes : Nat := 0x10000000000000000

/-- The number of entries up to which an array can be made. -/
def allocatable : Nat := 0x8000000000000000

theorem demand_of {condition : Prop} [Decidable condition] (holds : condition) :
    demand condition = some () :=
  if_pos holds

theorem fit_of_lt {values number : Nat} (small : number < values) :
    fit values number = some number :=
  if_pos small

theorem divisor_of_ne {α : Type} [DecidableEq α] [OfNat α 0] {number : α} (nonzero : number ≠ 0) :
    divisor number = some number :=
  if_neg nonzero

theorem slice_of_within {α : Type} {entries : Array α} {address length : Nat}
    (within : address + length ≤ entries.size) :
    slice entries address (address + length) =
      some (entries.extract address (address + length)).toList :=
  if_pos ⟨Nat.le_add_right _ _, within⟩

/-! ## Memory -/

/-- Replace consecutive bytes, each of them in place. -/
def overwrite (bytes : Array UInt8) (address : Nat) : List UInt8 → Option (Array UInt8)
  | [] => some bytes
  | byte :: rest => do
      demand (address < bytes.size)
      overwrite (bytes.setIfInBounds address byte) (address + 1) rest

/-- The bytes of a span. -/
def read (memory : Memory) (address length : Nat) : Guarded (List UInt8) := do
  Span.check ⟨address, length⟩ memory.size
  slice memory.bytes address (address + length)

/-- The word at an address. -/
def word (memory : Memory) (address : Nat) : Guarded UInt16 := do
  let data ← read memory address 2
  return Word.ofBytes (← (data[0]? : Option UInt8)) (← (data[1]? : Option UInt8))

/-- Copy the data over the bytes from one index up to another, which are as many. -/
def copy (bytes : Array UInt8) (start stop : Nat) (data : List UInt8) :
    Option (Array UInt8) := do
  demand (start ≤ stop ∧ stop ≤ bytes.size)
  demand (stop - start = data.length)
  overwrite bytes start data

/-- Memory with the data written at the address. -/
def write (memory : Memory) (address : Nat) (data : List UInt8) : Guarded Memory := do
  Span.check ⟨address, data.length⟩ memory.size
  return ⟨← copy memory.bytes address (address + data.length) data⟩

theorem overwrite_eq {bytes : Array UInt8} {address : Nat} {data : List UInt8}
    (within : address + data.length ≤ bytes.size) :
    overwrite bytes address data = some (Memory.overwrite bytes address data) := by
  induction data generalizing bytes address with
  | nil => rfl
  | cons byte rest induction =>
      rw [List.length_cons] at within
      rw [overwrite, demand_of (by omega)]
      refine induction ?_
      rw [Array.size_setIfInBounds]
      omega

theorem read_eq (memory : Memory) (address length : Nat) :
    read memory address length = ofResult (memory.read address length) := by
  rw [read, Memory.read]
  by_cases within : address + length ≤ memory.size
  · rw [Span.check_of_within (by exact within), slice_of_within (by exact within)]
    rfl
  · rw [Span.check_of_not_within (by exact within)]
    rfl

theorem word_eq (memory : Memory) (address : Nat) :
    word memory address = ofResult (memory.word address) := by
  rw [word, read_eq]
  by_cases within : address + 2 ≤ memory.size
  · rw [Memory.word_eq_ok within, Memory.read_eq_ok within]
    rfl
  · rw [Memory.word_eq_error within, Memory.read_eq_error within]
    rfl

theorem copy_eq {bytes : Array UInt8} {address : Nat} {data : List UInt8}
    (within : address + data.length ≤ bytes.size) :
    copy bytes address (address + data.length) data =
      some (Memory.overwrite bytes address data) := by
  rw [copy, demand_of ⟨Nat.le_add_right _ _, within⟩, demand_of (Nat.add_sub_cancel_left _ _),
    overwrite_eq within]
  rfl

theorem write_eq (memory : Memory) (address : Nat) (data : List UInt8) :
    write memory address data = ofResult (memory.write address data) := by
  rw [write, Memory.write]
  by_cases within : address + data.length ≤ memory.size
  · rw [Span.check_of_within (by exact within), copy_eq (by exact within)]
    rfl
  · rw [Span.check_of_not_within (by exact within)]
    rfl

/-! ## Fonts -/

/-- Copy each glyph to the front of its chunk.  The chunks divide so many bytes, and the
last one may be shorter. -/
def place (bytes : Array UInt8) (address chunk left : Nat) : Font → Option (Array UInt8)
  | [] => some bytes
  | glyph :: rest =>
      if left = 0 then some bytes
      else do
        let length := min chunk left
        demand (glyph.length ≤ length)
        let placed ← copy bytes address (address + glyph.length) glyph
        place placed (address + length) chunk (left - length) rest

/-- Memory with a font written at the address. -/
def writeFont (memory : Memory) (address : Nat) (font : Font) : Guarded Memory := do
  Span.check ⟨address, font.extent⟩ memory.size
  let _ ← slice memory.bytes address (address + font.extent)
  let chunk ← (divisor (max font.stride 1) : Option Nat)
  return ⟨← place memory.bytes address chunk font.extent font⟩

/-- Every glyph fits its chunk if none is higher than the stride. -/
theorem place_eq {bytes : Array UInt8} {address stride : Nat} {font : Font}
    (low : ∀ glyph ∈ font, glyph.length ≤ stride)
    (within : address + font.length * stride ≤ bytes.size) :
    place bytes address (max stride 1) (font.length * stride) font =
      some (font.place bytes address stride) := by
  induction font generalizing bytes address with
  | nil => rfl
  | cons glyph rest induction =>
      obtain ⟨first, others⟩ := List.forall_mem_cons.mp low
      rw [List.length_cons, Nat.succ_mul] at within ⊢
      rw [place]
      by_cases flat : stride = 0
      · -- there is no chunk, and no glyph needs one
        subst flat
        rw [if_pos (by omega),
          Font.place_of_empty fun glyph among => Nat.le_zero.mp (low glyph among)]
      · have length : min (max stride 1) (rest.length * stride + stride) = stride := by omega
        rw [if_neg (by omega)]
        simp only [length]
        rw [demand_of first, copy_eq (by omega), Nat.add_sub_cancel]
        refine induction others ?_
        rw [Memory.size_overwrite]
        omega

/-- A glyph that is higher than its chunk is not copied. -/
example : place #[0, 0, 0] 0 1 3 [[1, 2], [3]] = none := by decide

theorem writeFont_eq (memory : Memory) (address : Nat) (font : Font) :
    writeFont memory address font = ofResult (memory.writeFont address font) := by
  rw [writeFont, Memory.writeFont]
  by_cases within : address + font.extent ≤ memory.size
  · rw [Span.check_of_within (by exact within), slice_of_within (by exact within),
      divisor_of_ne (by omega)]
    have placed := place_eq (fun _ => Font.length_le_stride) (by exact within)
    rw [bind_some, bind_some, Font.extent, placed]
    rfl
  · rw [Span.check_of_not_within (by exact within)]
    rfl

/-! ## The screen -/

/-- A dark screen, whose pixels are one array. -/
def blank (width height : Nat) (wraps : Bool) : Guarded Screen := do
  if 0 < width ∧ 0 < height then
    demand ((← fit sizes (width * height)) < allocatable)
  Screen.blank width height wraps

/-- The position that coordinates stand for. -/
def locate (screen : Screen) (x y : Nat) : Option (Option (Nat × Nat)) :=
  if screen.wraps then do
    return some (x % (← divisor screen.width), y % (← divisor screen.height))
  else if x < screen.width ∧ y < screen.height then some (some (x, y))
  else some none

/-- The index of a position. -/
def index (screen : Screen) (column row : Nat) : Option Nat := do
  fit sizes ((← fit sizes (row * screen.width)) + column)

/-- Whether the pixel under the coordinates is on. -/
def pixel (screen : Screen) (x y : Nat) : Option Bool := do
  match ← locate screen x y with
  | some (column, row) => screen.pixels[← index screen column row]?
  | none => return false

/-- Toggle the pixel under the coordinates and tell whether that switched it off. -/
def toggle (screen : Screen) (x y : Nat) : Option (Screen × Bool) := do
  match ← locate screen x y with
  | some (column, row) =>
      let index ← index screen column row
      let lit ← screen.pixels[index]?
      return ({ screen with
          pixels := screen.pixels.modify index not
          size_pixels := by simpa using screen.size_pixels },
        lit)
  | none => return (screen, false)

/-- Combine the pixel under the coordinates with a value by exclusive or. -/
def xor (screen : Screen) (x y : Nat) (value : Bool) : Option (Screen × Bool) :=
  if value then toggle screen x y else some (screen, false)

/-- Draw the cells of one sprite row, column by column. -/
def drawRow (screen : Screen) (x y : Nat) (row : UInt8) : List Nat → Option (Screen × Bool)
  | [] => some (screen, false)
  | column :: rest => do
      let bit := row.toNat.testBit (7 - (← fit 8 column))
      let (first, switchedOff) ← xor screen (← fit sizes (x + column)) y bit
      let (last, switchedOffLater) ← drawRow first x y row rest
      return (last, switchedOff || switchedOffLater)

/-- Draw sprite rows, the first of which has the given number. -/
def drawRows (screen : Screen) (x y number : Nat) : List UInt8 → Option (Screen × Bool)
  | [] => some (screen, false)
  | row :: rest => do
      let (first, switchedOff) ← drawRow screen x (← fit sizes (y + number)) row (List.range 8)
      let (last, switchedOffLater) ← drawRows first x y (number + 1) rest
      return (last, switchedOff || switchedOffLater)

/-- Draw a sprite whose rows are a span of a store of bytes. -/
def drawFrom (screen : Screen) (x y : Nat) (source : Array UInt8) (address rows : Nat) :
    Guarded (Screen × Bool) := do
  Span.check ⟨address, rows⟩ source.size
  drawRows screen x y 0 (← slice source address (address + rows))

/-- An area that fits into memory can be made into a screen. -/
theorem blank_eq {width height : Nat} (wraps : Bool) (small : width * height < allocatable) :
    blank width height wraps = ofResult (Screen.blank width height wraps) := by
  have fits : width * height < sizes := Nat.lt_trans small (by decide)
  rw [blank, fit_of_lt fits, bind_some, demand_of small]
  split <;> rfl

theorem locate_eq (screen : Screen) (x y : Nat) :
    locate screen x y = some (screen.locate? x y) := by
  rw [locate, Screen.locate?, divisor_of_ne (Nat.ne_of_gt screen.width_pos),
    divisor_of_ne (Nat.ne_of_gt screen.height_pos)]
  by_cases wraps : screen.wraps = true
  · rw [if_pos wraps, if_pos wraps]
    rfl
  · rw [if_neg wraps, if_neg wraps]
    split <;> rfl

variable {screen : Screen}

/-- A position has an index if there is one for every pixel. -/
theorem index_eq (room : screen.pixels.size ≤ sizes) {column row : Nat}
    (inside : screen.OnScreen column row) :
    index screen column row = some (row * screen.width + column) := by
  have below := Screen.index_lt inside
  rw [index, fit_of_lt (by omega)]
  exact fit_of_lt (by omega)

theorem pixel_eq (room : screen.pixels.size ≤ sizes) (x y : Nat) :
    pixel screen x y = some (screen.pixel x y) := by
  rw [pixel, Screen.pixel, locate_eq]
  cases located : screen.locate? x y with
  | none => rfl
  | some position =>
      obtain ⟨column, row⟩ := position
      obtain ⟨inside, _⟩ := (screen.locate?_eq_some_iff x y column row).mp located
      have below := Screen.index_lt inside
      simp [index_eq room inside, below]

theorem toggle_eq (room : screen.pixels.size ≤ sizes) (x y : Nat) :
    toggle screen x y = some (screen.toggle x y) := by
  rw [toggle, Screen.toggle, locate_eq]
  cases located : screen.locate? x y with
  | none => rfl
  | some position =>
      obtain ⟨column, row⟩ := position
      obtain ⟨inside, _⟩ := (screen.locate?_eq_some_iff x y column row).mp located
      have below := Screen.index_lt inside
      simp [index_eq room inside, below]

theorem xor_eq (room : screen.pixels.size ≤ sizes) (x y : Nat) (value : Bool) :
    xor screen x y value = some (screen.xor x y value) := by
  rw [xor, Screen.xor, toggle_eq room]
  split <;> rfl

/-- A row toggles the cells under its set bits. -/
theorem drawRow_eq (room : screen.pixels.size ≤ sizes) {x y : Nat} (row : UInt8)
    {columns : List Nat} (narrow : ∀ column ∈ columns, column < 8) (right : x + 8 ≤ sizes) :
    drawRow screen x y row columns =
      some (screen.toggleAll
        ((columns.filter fun column => row.toNat.testBit (7 - column)).map
          fun column => (x + column, y))) := by
  induction columns generalizing screen with
  | nil => rfl
  | cons column rest induction =>
      obtain ⟨first, others⟩ := List.forall_mem_cons.mp narrow
      rw [drawRow, fit_of_lt first, fit_of_lt (by omega)]
      cases bit : row.toNat.testBit (7 - column) with
      | false =>
          simp [bit, xor_eq room, Screen.xor, induction room others]
      | true =>
          have kept : (screen.toggle (x + column) y).1.pixels.size ≤ sizes := by
            rwa [(screen.sameShape_toggle (x + column) y).size_pixels_eq]
          simp [bit, xor_eq room, Screen.xor, induction kept others, Screen.toggleAll]

/-- The rows of a sprite toggle the cells under its set bits. -/
theorem drawRows_eq (room : screen.pixels.size ≤ sizes) {x y number : Nat} {rows : List UInt8}
    (right : x + 8 ≤ sizes) (bottom : y + number + rows.length ≤ sizes) :
    drawRows screen x y number rows = some (screen.draw x (y + number) rows) := by
  rw [Screen.draw]
  induction rows generalizing screen number with
  | nil => rfl
  | cons row rest induction =>
      rw [List.length_cons] at bottom
      let cells := (Screen.litColumns row).map fun column => (x + column, y + number)
      have drawn : drawRow screen x (y + number) row (List.range 8) =
          some (screen.toggleAll cells) :=
        drawRow_eq room row (fun column => List.mem_range.mp) right
      have kept : (screen.toggleAll cells).1.pixels.size ≤ sizes := by
        rwa [(screen.sameShape_toggleAll cells).size_pixels_eq]
      have further : y + (number + 1) + rest.length ≤ sizes := by omega
      rw [drawRows, fit_of_lt (by omega), Screen.litCells, Screen.toggleAll_append]
      simp [drawn, induction kept further, cells, ← Nat.add_assoc]

theorem drawFrom_eq (room : screen.pixels.size ≤ sizes) {x y : Nat} (source : Array UInt8)
    (address : Nat) {rows : Nat} (right : x + 8 ≤ sizes) (bottom : y + rows ≤ sizes) :
    drawFrom screen x y source address rows =
      ofResult (screen.drawFrom x y source address rows) := by
  rw [drawFrom, Screen.drawFrom]
  by_cases within : address + rows ≤ source.size
  · have length : (source.extract address (address + rows)).toList.length = rows := by
      rw [Array.length_toList, Array.size_extract]
      omega
    have low : y + 0 + (source.extract address (address + rows)).toList.length ≤ sizes := by
      rwa [length]
    have drawn := drawRows_eq room right low
    rw [Span.check_of_within (by exact within), slice_of_within within, bind_some, drawn]
    rfl
  · rw [Span.check_of_not_within (by exact within)]
    rfl

end Guarded

end Chip8

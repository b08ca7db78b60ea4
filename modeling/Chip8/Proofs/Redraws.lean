import Chip8.Proofs.Sprites

/-!
# Drawing again

What many toggles do depends only on how many cells land on each position.  Neither the
order of the cells matters nor which draw they belong to.  Therefore two sprites can be
drawn in either order, a sprite that is drawn twice leaves no trace, and on a wrapping
screen a sprite may be moved by whole screens.

The collision of a single draw depends on what was drawn before.  A collision in one of
two draws does not depend on their order.
-/

namespace Chip8.Screen

variable {screen : Screen}

/-! ## Toggles up to their landings -/

/-- Cells that land on every position equally often have the same effect. -/
theorem toggleAll_congr {first second : List (Nat × Nat)}
    (same : ∀ column row, screen.OnScreen column row →
      screen.landings first column row = screen.landings second column row) :
    screen.toggleAll first = screen.toggleAll second := by
  have firstShape := screen.sameShape_toggleAll first
  have secondShape := screen.sameShape_toggleAll second
  apply Prod.ext
  · refine eq_of_pixels (secondShape.symm.trans firstShape) fun column row insideAfter => ?_
    have inside := (secondShape.onScreen_iff column row).mp insideAfter
    rw [pixel_toggleAll inside, pixel_toggleAll inside, same column row inside]
  · apply Bool.eq_iff_iff.mpr
    rw [toggleAll_reports_iff, toggleAll_reports_iff]
    constructor
    · rintro ⟨column, row, inside, off⟩
      exact ⟨column, row, inside, same column row inside ▸ off⟩
    · rintro ⟨column, row, inside, off⟩
      exact ⟨column, row, inside, (same column row inside).symm ▸ off⟩

theorem landings_append (first second : List (Nat × Nat)) (column row : Nat) :
    screen.landings (first ++ second) column row =
      screen.landings first column row + screen.landings second column row :=
  List.countP_append

/-- The order of two groups of cells does not matter. -/
theorem toggleAll_append_comm (first second : List (Nat × Nat)) :
    screen.toggleAll (first ++ second) = screen.toggleAll (second ++ first) := by
  apply toggleAll_congr
  intro column row _
  rw [landings_append, landings_append, Nat.add_comm]

/-- Toggling the same cells again restores the screen. -/
theorem toggleAll_toggleAll (cells : List (Nat × Nat)) :
    ((screen.toggleAll cells).1.toggleAll cells).1 = screen := by
  have joined := congrArg Prod.fst (screen.toggleAll_append cells cells)
  refine joined.symm.trans ?_
  refine eq_of_pixels (screen.sameShape_toggleAll _) fun column row inside => ?_
  have even : ¬ screen.landings (cells ++ cells) column row % 2 = 1 := by
    rw [landings_append]
    omega
  rw [pixel_toggleAll inside, decide_eq_false even, Bool.xor_false]

/-- Where cells have landed without switching a pixel off, they switch one off when they
are toggled again. -/
theorem toggleAll_reports_again {cells : List (Nat × Nat)} {column row : Nat}
    (quiet : (screen.toggleAll cells).2 = false) (inside : screen.OnScreen column row)
    (landed : 1 ≤ screen.landings cells column row) :
    ((screen.toggleAll cells).1.toggleAll cells).2 = true := by
  have shape := screen.sameShape_toggleAll cells
  have kept : ¬ SwitchedOff (screen.pixel column row) (screen.landings cells column row) := by
    intro off
    have reported := (screen.toggleAll_reports_iff cells).mpr ⟨column, row, inside, off⟩
    exact Bool.false_ne_true (quiet.symm.trans reported)
  -- the pixel was off and hit once, so it is on now
  have dark : screen.pixel column row = false :=
    Bool.eq_false_iff.mpr fun lit => kept (.inl ⟨lit, landed⟩)
  have once : screen.landings cells column row = 1 := by
    have fewer : ¬ 2 ≤ screen.landings cells column row := fun twice => kept (.inr ⟨dark, twice⟩)
    omega
  have lit : (screen.toggleAll cells).1.pixel column row = true := by
    rw [pixel_toggleAll inside, dark, once]
    rfl
  refine (toggleAll_reports_iff _ cells).mpr
    ⟨column, row, (shape.onScreen_iff column row).mpr inside, .inl ⟨lit, ?_⟩⟩
  rw [shape.landings_eq]
  exact landed

/-! ## Moving by whole screens -/

theorem landsOn_add_mul (wraps : screen.wraps = true) (i j x y column row : Nat) :
    screen.LandsOn (x + i * screen.width) (y + j * screen.height) column row ↔
      screen.LandsOn x y column row := by
  rw [LandsOn, LandsOn, if_pos wraps, if_pos wraps, Nat.add_mul_mod_self_right,
    Nat.add_mul_mod_self_right]

/-- A sprite that is moved by whole screens lands where it did. -/
theorem landings_litCells_add_mul (wraps : screen.wraps = true) (i j x y : Nat)
    (sprite : List UInt8) (column row : Nat) :
    screen.landings (litCells (x + i * screen.width) (y + j * screen.height) sprite) column row =
      screen.landings (litCells x y sprite) column row := by
  rw [landings_litCells, landings_litCells]
  refine Finset.sum_congr rfl fun r _ => congrArg Finset.card (Finset.filter_congr fun c _ => ?_)
  rw [Nat.add_right_comm x, Nat.add_right_comm y, landsOn_add_mul wraps]

theorem draw_add_mul (wraps : screen.wraps = true) (i j x y : Nat) (sprite : List UInt8) :
    screen.draw (x + i * screen.width) (y + j * screen.height) sprite = screen.draw x y sprite :=
  toggleAll_congr fun column row _ => landings_litCells_add_mul wraps i j x y sprite column row

/-! ## Stored sprites -/

/-- A sprite whose rows are a span of a store of bytes. -/
structure StoredSprite where
  /-- The store. -/
  source : Array UInt8
  /-- The address of the first row. -/
  address : Nat
  /-- The number of rows. -/
  rows : Nat
  /-- The rows lie in the store. -/
  within : address + rows ≤ source.size

namespace StoredSprite

/-- The rows from the top. -/
def bytes (sprite : StoredSprite) : List UInt8 :=
  (sprite.source.extract sprite.address (sprite.address + sprite.rows)).toList

/-- The screen with the sprite drawn at `(x, y)`, and whether that was a collision. -/
def drawOn (sprite : StoredSprite) (screen : Screen) (x y : Nat) : Except Fault (Screen × Bool) :=
  screen.drawFrom x y sprite.source sprite.address sprite.rows

/-- At least one set bit of the sprite at `(x, y)` lands on the screen. -/
def Shows (sprite : StoredSprite) (screen : Screen) (x y : Nat) : Prop :=
  ∃ column row, screen.OnScreen column row ∧
    1 ≤ screen.hits x y sprite.source sprite.address sprite.rows column row

theorem drawOn_eq (sprite : StoredSprite) (screen : Screen) (x y : Nat) :
    sprite.drawOn screen x y = .ok (screen.draw x y sprite.bytes) :=
  screen.drawFrom_eq_draw x y sprite.within

/-- Drawing a sprite again restores the screen, and collides if the sprite shows and
did not collide before. -/
theorem drawOn_twice (sprite : StoredSprite) (screen : Screen) (x y : Nat) :
    ∃ once first second, sprite.drawOn screen x y = .ok (once, first) ∧
      sprite.drawOn once x y = .ok (screen, second) ∧
      (first = false → sprite.Shows screen x y → second = true) := by
  refine ⟨_, _, ((screen.draw x y sprite.bytes).1.draw x y sprite.bytes).2,
    sprite.drawOn_eq screen x y, ?_, ?_⟩
  · rw [drawOn_eq]
    exact congrArg Except.ok (Prod.ext (toggleAll_toggleAll _) rfl)
  · rintro quiet ⟨column, row, inside, hit⟩
    rw [← landings_eq_hits sprite.within] at hit
    exact toggleAll_reports_again quiet inside hit

/-- Two sprites give the same screen in either order, and a collision in one of the draws
for one order is one for the other. -/
theorem drawOn_comm (sprite other : StoredSprite) (screen : Screen) (x y x' y' : Nat) :
    ∃ between between' after first second first' second',
      sprite.drawOn screen x y = .ok (between, first) ∧
      other.drawOn between x' y' = .ok (after, second) ∧
      other.drawOn screen x' y' = .ok (between', second') ∧
      sprite.drawOn between' x y = .ok (after, first') ∧
      (first || second) = (first' || second') := by
  have swapped := screen.toggleAll_append_comm (litCells x y sprite.bytes)
    (litCells x' y' other.bytes)
  rw [toggleAll_append, toggleAll_append] at swapped
  obtain ⟨screens, flags⟩ := Prod.mk.inj swapped
  refine ⟨_, _, _, _, _, _, _, sprite.drawOn_eq screen x y, other.drawOn_eq _ x' y',
    other.drawOn_eq screen x' y', ?_, flags.trans (Bool.or_comm _ _)⟩
  rw [drawOn_eq]
  exact congrArg Except.ok (Prod.ext screens.symm rfl)

end StoredSprite

/-- Drawing is an exclusive or.  A sprite that is drawn twice leaves no trace, and if it
shows, one of the two draws collides.  Two sprites give the same screen and the same
alternative of their collisions in either order.  On a wrapping screen a sprite can be
moved by whole screens in both directions. -/
theorem drawing_is_exclusive_or (screen : Screen) :
    (∀ (sprite : StoredSprite) (x y : Nat), ∃ once first second,
      sprite.drawOn screen x y = .ok (once, first) ∧
      sprite.drawOn once x y = .ok (screen, second) ∧
      (first = false → sprite.Shows screen x y → second = true)) ∧
    (∀ (sprite other : StoredSprite) (x y x' y' : Nat),
      ∃ between between' after first second first' second',
        sprite.drawOn screen x y = .ok (between, first) ∧
        other.drawOn between x' y' = .ok (after, second) ∧
        other.drawOn screen x' y' = .ok (between', second') ∧
        sprite.drawOn between' x y = .ok (after, first') ∧
        (first || second) = (first' || second')) ∧
    (screen.wraps = true → ∀ (x y i j : Nat) (source : Array UInt8) (address rows : Nat),
      screen.drawFrom (x + i * screen.width) (y + j * screen.height) source address rows =
        screen.drawFrom x y source address rows) := by
  refine ⟨fun sprite => sprite.drawOn_twice screen,
    fun sprite other => sprite.drawOn_comm other screen,
    fun wraps x y i j source address rows => ?_⟩
  rw [drawFrom, drawFrom, draw_add_mul wraps]

/-- A dot beyond the edge of a dark wrapping screen is drawn, erased, and drawn with
another one, which collides in the draw that comes second. -/
theorem dot_beyond_edge_erased :
    ∃ (screen : Screen) (dot : StoredSprite), screen.wraps = true ∧ dot.Shows screen 5 1 ∧
      (∃ once, dot.drawOn screen 5 1 = .ok (once, false) ∧
        dot.drawOn once 5 1 = .ok (screen, true)) ∧
      (∃ between between' after, dot.drawOn screen 5 1 = .ok (between, false) ∧
        dot.drawOn between 1 3 = .ok (after, true) ∧
        dot.drawOn screen 1 3 = .ok (between', false) ∧
        dot.drawOn between' 5 1 = .ok (after, true)) ∧
      screen.drawFrom (5 + 3 * screen.width) (1 + 7 * screen.height) dot.source 1 1 =
        screen.drawFrom 5 1 dot.source 1 1 := by
  let screen : Screen := ⟨4, 2, true, Array.replicate 8 false, by decide, by decide, by decide⟩
  let dot : StoredSprite := ⟨#[0, 0x80], 1, 1, by decide⟩
  have shows : dot.Shows screen 5 1 := ⟨1, 1, ⟨by decide, by decide⟩, by decide⟩
  have quiet : (dot.drawOn screen 5 1).toOption.map Prod.snd = some false := by decide
  have quiet' : (dot.drawOn screen 1 3).toOption.map Prod.snd = some false := by decide
  have loud : ((dot.drawOn screen 5 1).toOption.bind fun drawn =>
    (dot.drawOn drawn.1 1 3).toOption.map Prod.snd) = some true := by decide
  obtain ⟨erased, swapped, moved⟩ := drawing_is_exclusive_or screen
  obtain ⟨once, first, second, drawn, redrawn, again⟩ := erased dot 5 1
  obtain ⟨between, between', after, one, two, one', two', drawnOne, drawnTwo, drawnTwo', drawnOne',
    flags⟩ := swapped dot dot 5 1 1 3
  rw [drawn] at quiet loud
  change (dot.drawOn once 1 3).toOption.map Prod.snd = some true at loud
  cases quiet
  cases again rfl shows
  cases drawn.symm.trans drawnOne
  rw [drawnTwo'] at quiet'
  cases quiet'
  rw [drawnTwo] at loud
  cases loud
  obtain rfl : true = one' := flags.trans (Bool.or_false one')
  exact ⟨screen, dot, rfl, shows, ⟨once, drawn, redrawn⟩,
    ⟨once, between', after, drawn, drawnTwo, drawnTwo', drawnOne'⟩, moved rfl 5 1 3 7 _ 1 1⟩

end Chip8.Screen

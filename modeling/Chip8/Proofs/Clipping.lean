import Chip8.Proofs.Sprites

/-!
# Clipping and wrapping

A screen that clips and one that wraps differ only in what they do with cells beyond the
right and the lower edge.  A cell on the screen lands where it is on both, so the wrapping
screen is hit wherever the clipping one is.  It follows that a collision on the clipping
screen is one on the wrapping screen, and that both do the same if no cell leaves the
screen.

Where the sprite is not larger than the screen and starts on it, a cell that comes back in
lands to the left of the sprite's origin or above it.  So both screens agree to the right
of the origin and below it, and everywhere else the clipping screen is unchanged.
-/

namespace Chip8.Screen

/-- Two screens of the same dimensions and pixels, of which only the second one wraps. -/
structure Twins (clipping wrapping : Screen) : Prop where
  width : wrapping.width = clipping.width
  height : wrapping.height = clipping.height
  pixels : wrapping.pixels = clipping.pixels
  clips : clipping.wraps = false
  wraps : wrapping.wraps = true

variable {clipping wrapping : Screen} {x y column row : Nat} {source : Array UInt8}
  {address rows : Nat}

/-! ## Landings -/

theorem landsOn_of_clips (clips : clipping.wraps = false) :
    clipping.LandsOn x y column row ↔ x = column ∧ y = row := by
  rw [LandsOn, if_neg (Bool.eq_false_iff.mp clips)]

theorem landsOn_of_wraps (wraps : wrapping.wraps = true) :
    wrapping.LandsOn x y column row ↔
      x % wrapping.width = column ∧ y % wrapping.height = row := by
  rw [LandsOn, if_pos wraps]

/-- A clipping screen is hit to the right of the sprite's origin and below it only. -/
theorem hits_eq_zero_of_clips (clips : clipping.wraps = false)
    (outside : ¬ (x ≤ column ∧ y ≤ row)) :
    clipping.hits x y source address rows column row = 0 := by
  rw [hits, Finset.card_eq_zero, Finset.filter_eq_empty_iff]
  rintro ⟨r, c⟩ _ ⟨_, landing⟩
  obtain ⟨atColumn, atRow⟩ := (landsOn_of_clips clips).mp landing
  omega

/-- Hits are counted alike if every cell lands alike. -/
theorem hits_congr {first second : Screen}
    (alike : ∀ r < rows, ∀ c < 8, first.LandsOn (x + c) (y + r) column row ↔
      second.LandsOn (x + c) (y + r) column row) :
    first.hits x y source address rows column row =
      second.hits x y source address rows column row := by
  refine congrArg Finset.card (Finset.filter_congr fun cell among => ?_)
  obtain ⟨inRows, inColumns⟩ := Finset.mem_product.mp among
  rw [alike cell.1 (Finset.mem_range.mp inRows) cell.2 (Finset.mem_range.mp inColumns)]

/-- A remainder that does not fall behind the start of a window shorter than the modulus
has not wrapped. -/
theorem add_mod_eq_iff {start offset modulus target : Nat} (starts : start < modulus)
    (short : offset < modulus) (ahead : start ≤ target) :
    (start + offset) % modulus = target ↔ start + offset = target ∧ target < modulus := by
  by_cases within : start + offset < modulus
  · rw [Nat.mod_eq_of_lt within]
    omega
  · have wrapped : (start + offset) % modulus = start + offset - modulus := by
      rw [Nat.mod_eq_sub_mod (Nat.le_of_not_lt within), Nat.mod_eq_of_lt (by omega)]
    rw [wrapped]
    omega

namespace Twins

theorem onScreen_iff (twins : clipping.Twins wrapping) (column row : Nat) :
    wrapping.OnScreen column row ↔ clipping.OnScreen column row := by
  rw [OnScreen, OnScreen, twins.width, twins.height]

theorem pixel_eq (twins : clipping.Twins wrapping) (inside : clipping.OnScreen column row) :
    wrapping.pixel column row = clipping.pixel column row := by
  rw [pixel_eq_getD inside, pixel_eq_getD ((twins.onScreen_iff column row).mpr inside),
    twins.pixels, twins.width]

/-- A cell that lands on a position of the clipping screen lands there on the wrapping
one too. -/
theorem landsOn (twins : clipping.Twins wrapping) (inside : clipping.OnScreen column row)
    (landing : clipping.LandsOn x y column row) : wrapping.LandsOn x y column row := by
  obtain ⟨rfl, rfl⟩ := (landsOn_of_clips twins.clips).mp landing
  exact landsOn_self ((twins.onScreen_iff x y).mpr inside)

/-- A cell on the screen lands alike on both. -/
theorem landsOn_iff_of_onScreen (twins : clipping.Twins wrapping)
    (cell : clipping.OnScreen x y) :
    clipping.LandsOn x y column row ↔ wrapping.LandsOn x y column row := by
  rw [landsOn_of_clips twins.clips, landsOn_of_wraps twins.wraps, twins.width, twins.height,
    Nat.mod_eq_of_lt cell.1, Nat.mod_eq_of_lt cell.2]

/-- The wrapping screen is hit at least as often as the clipping one. -/
theorem hits_le (twins : clipping.Twins wrapping) (inside : clipping.OnScreen column row) :
    clipping.hits x y source address rows column row ≤
      wrapping.hits x y source address rows column row := by
  apply Finset.card_le_card
  intro cell among
  obtain ⟨bounded, lit, landing⟩ := Finset.mem_filter.mp among
  exact Finset.mem_filter.mpr ⟨bounded, lit, twins.landsOn inside landing⟩

/-- A sprite on the screen hits both alike. -/
theorem hits_eq_of_onScreen (twins : clipping.Twins wrapping)
    (framed : ∀ r < rows, ∀ c < 8, clipping.OnScreen (x + c) (y + r)) (column row : Nat) :
    wrapping.hits x y source address rows column row =
      clipping.hits x y source address rows column row :=
  (hits_congr fun r short c narrow => twins.landsOn_iff_of_onScreen (framed r short c narrow)).symm

/-- A sprite that is not larger than the screen and starts on it hits both alike to the
right of its origin and below it. -/
theorem hits_eq_of_ahead (twins : clipping.Twins wrapping) (wide : 8 ≤ clipping.width)
    (high : rows ≤ clipping.height) (origin : clipping.OnScreen x y)
    (inside : clipping.OnScreen column row) (ahead : x ≤ column ∧ y ≤ row) :
    wrapping.hits x y source address rows column row =
      clipping.hits x y source address rows column row := by
  apply hits_congr
  intro r short c narrow
  rw [landsOn_of_clips twins.clips, landsOn_of_wraps twins.wraps, twins.width, twins.height,
    add_mod_eq_iff origin.1 (Nat.lt_of_lt_of_le narrow wide) ahead.1,
    add_mod_eq_iff origin.2 (Nat.lt_of_lt_of_le short high) ahead.2,
    and_iff_left inside.1, and_iff_left inside.2]

end Twins

/-! ## Draws -/

/-- A pixel that some hits switch off is switched off by more of them. -/
theorem SwitchedOff.mono {lit : Bool} {fewer more : Nat} (off : SwitchedOff lit fewer)
    (le : fewer ≤ more) : SwitchedOff lit more :=
  off.imp (fun ⟨on, hit⟩ => ⟨on, hit.trans le⟩) fun ⟨dark, twice⟩ => ⟨dark, twice.trans le⟩

/-- Screens with the same dimensions and the same pixels at every position have the same
array of pixels. -/
theorem pixels_eq_of_pixel {first second : Screen} (width : second.width = first.width)
    (height : second.height = first.height)
    (same : ∀ column row, first.OnScreen column row →
      second.pixel column row = first.pixel column row) :
    second.pixels = first.pixels := by
  have recast : { second with wraps := first.wraps } = first := by
    refine eq_of_pixels ⟨width, height, rfl⟩ fun column row inside => ?_
    have insideSecond : second.OnScreen column row := by
      rw [OnScreen, width, height]
      exact inside
    rw [← same column row inside, pixel_eq_getD insideSecond]
    exact pixel_eq_getD insideSecond
  calc second.pixels = ({ second with wraps := first.wraps } : Screen).pixels := rfl
    _ = first.pixels := by rw [recast]

namespace Twins

/-- Both screens change a pixel alike that they are hit on alike. -/
theorem pixel_draw_eq (twins : clipping.Twins wrapping) (within : address + rows ≤ source.size)
    (inside : clipping.OnScreen column row)
    (alike : wrapping.hits x y source address rows column row =
      clipping.hits x y source address rows column row) :
    (wrapping.draw x y (source.extract address (address + rows)).toList).1.pixel column row =
      (clipping.draw x y (source.extract address (address + rows)).toList).1.pixel column row := by
  have insideWrapping := (twins.onScreen_iff column row).mpr inside
  rw [pixel_draw inside x y within, pixel_draw insideWrapping x y within, alike,
    twins.pixel_eq inside]

/-- What switches a pixel off on the clipping screen does so on the wrapping one. -/
theorem collides_of_collides (twins : clipping.Twins wrapping)
    (within : address + rows ≤ source.size)
    (collides : (clipping.draw x y (source.extract address (address + rows)).toList).2 = true) :
    (wrapping.draw x y (source.extract address (address + rows)).toList).2 = true := by
  obtain ⟨column, row, inside, off⟩ := (clipping.draw_reports_iff x y within).mp collides
  refine (wrapping.draw_reports_iff x y within).mpr
    ⟨column, row, (twins.onScreen_iff column row).mpr inside, ?_⟩
  rw [twins.pixel_eq inside]
  exact off.mono (twins.hits_le inside)

/-- A sprite on the screen is drawn alike on both. -/
theorem draw_eq_of_onScreen (twins : clipping.Twins wrapping)
    (within : address + rows ≤ source.size)
    (framed : ∀ r < rows, ∀ c < 8, clipping.OnScreen (x + c) (y + r)) :
    (wrapping.draw x y (source.extract address (address + rows)).toList).1.pixels =
        (clipping.draw x y (source.extract address (address + rows)).toList).1.pixels ∧
      (wrapping.draw x y (source.extract address (address + rows)).toList).2 =
        (clipping.draw x y (source.extract address (address + rows)).toList).2 := by
  have clippingShape := clipping.sameShape_draw x y (source.extract address (address + rows)).toList
  have wrappingShape := wrapping.sameShape_draw x y (source.extract address (address + rows)).toList
  constructor
  · apply pixels_eq_of_pixel
    · rw [wrappingShape.width, clippingShape.width, twins.width]
    · rw [wrappingShape.height, clippingShape.height, twins.height]
    · intro column row insideAfter
      have inside := (clippingShape.onScreen_iff column row).mp insideAfter
      exact twins.pixel_draw_eq within inside (twins.hits_eq_of_onScreen framed column row)
  · apply Bool.eq_iff_iff.mpr
    rw [draw_reports_iff wrapping x y within, draw_reports_iff clipping x y within]
    refine exists_congr fun column => exists_congr fun row => ?_
    rw [twins.onScreen_iff, and_congr_right_iff]
    intro inside
    rw [twins.pixel_eq inside, twins.hits_eq_of_onScreen framed]

end Twins

/-- The clipping screen changes to the right of the sprite's origin and below it only. -/
theorem pixel_draw_of_clips (clips : clipping.wraps = false)
    (within : address + rows ≤ source.size) (inside : clipping.OnScreen column row)
    (outside : ¬ (x ≤ column ∧ y ≤ row)) :
    (clipping.draw x y (source.extract address (address + rows)).toList).1.pixel column row =
      clipping.pixel column row := by
  rw [pixel_draw inside x y within, hits_eq_zero_of_clips clips outside]
  exact Bool.xor_false _

/-- A clipping and a wrapping screen refuse the same draws for the same reason.  Where no
cell of a sprite leaves the screen, both draw alike.  Where the sprite is not larger than
the screen and starts on it, both agree to the right of its origin and below it, and the
clipping screen is unchanged elsewhere.  A collision on the clipping screen is always one
on the wrapping screen. -/
theorem clipping_agrees_with_wrapping (twins : clipping.Twins wrapping) (x y : Nat)
    (source : Array UInt8) (address rows : Nat) :
    (∀ fault, clipping.drawFrom x y source address rows = .error fault ↔
      wrapping.drawFrom x y source address rows = .error fault) ∧
    ∀ clipped collision, clipping.drawFrom x y source address rows = .ok (clipped, collision) →
      ∃ wrapped collision', wrapping.drawFrom x y source address rows = .ok (wrapped, collision') ∧
        ((∀ r < rows, ∀ c < 8, clipping.OnScreen (x + c) (y + r)) →
          wrapped.pixels = clipped.pixels ∧ collision' = collision) ∧
        (8 ≤ clipping.width → rows ≤ clipping.height → clipping.OnScreen x y →
          ∀ column row, clipping.OnScreen column row →
            (x ≤ column ∧ y ≤ row → wrapped.pixel column row = clipped.pixel column row) ∧
            (¬ (x ≤ column ∧ y ≤ row) →
              clipped.pixel column row = clipping.pixel column row)) ∧
        (collision = true → collision' = true) := by
  by_cases within : address + rows ≤ source.size
  · rw [drawFrom_eq_draw clipping x y within, drawFrom_eq_draw wrapping x y within]
    refine ⟨fun fault => by simp only [reduceCtorEq], fun clipped collision drawn => ?_⟩
    obtain ⟨rfl, rfl⟩ := Prod.mk.inj (Except.ok.inj drawn)
    refine ⟨_, _, rfl, twins.draw_eq_of_onScreen within, ?_, twins.collides_of_collides within⟩
    intro wide high origin column row inside
    refine ⟨fun ahead => ?_, pixel_draw_of_clips twins.clips within inside⟩
    exact twins.pixel_draw_eq within inside (twins.hits_eq_of_ahead wide high origin inside ahead)
  · rw [drawFrom_eq_error clipping x y within, drawFrom_eq_error wrapping x y within]
    exact ⟨fun fault => Iff.rfl, nofun⟩

/-- A row of eight cells on a lit screen of eight columns.  At the left edge both screens
draw alike.  From the fifth column on they agree ahead of the origin, and behind it the
clipping screen stays lit. -/
theorem row_at_edge_clipped :
    ∃ clipping wrapping : Screen, clipping.Twins wrapping ∧
      (∃ clipped wrapped, clipping.drawFrom 0 1 #[0xFF] 0 1 = .ok (clipped, true) ∧
        wrapping.drawFrom 0 1 #[0xFF] 0 1 = .ok (wrapped, true) ∧
        wrapped.pixels = clipped.pixels) ∧
      ∃ clipped wrapped, clipping.drawFrom 4 1 #[0xFF] 0 1 = .ok (clipped, true) ∧
        wrapping.drawFrom 4 1 #[0xFF] 0 1 = .ok (wrapped, true) ∧
        wrapped.pixel 5 1 = clipped.pixel 5 1 ∧ clipped.pixel 1 1 = clipping.pixel 1 1 ∧
        wrapped.pixel 1 1 = false := by
  let clipping : Screen :=
    ⟨8, 2, false, Array.replicate 16 true, by decide, by decide, by decide⟩
  let wrapping : Screen := { clipping with wraps := true }
  have twins : clipping.Twins wrapping := ⟨rfl, rfl, rfl, rfl, rfl⟩
  have framed : ∀ r < 1, ∀ c < 8, clipping.OnScreen (0 + c) (1 + r) :=
    fun r short c narrow => ⟨show 0 + c < 8 by omega, show 1 + r < 2 by omega⟩
  have struck : (clipping.drawFrom 0 1 #[0xFF] 0 1).toOption.map Prod.snd = some true := by decide
  have struck' : (clipping.drawFrom 4 1 #[0xFF] 0 1).toOption.map Prod.snd = some true := by decide
  have dark : (wrapping.drawFrom 4 1 #[0xFF] 0 1).toOption.map (·.1.pixel 1 1) = some false := by
    decide
  obtain ⟨⟨clipped, collision⟩, left⟩ : ∃ result, clipping.drawFrom 0 1 #[0xFF] 0 1 = .ok result :=
    ⟨_, clipping.drawFrom_eq_draw 0 1 (by decide)⟩
  obtain ⟨⟨clipped', collision'⟩, right⟩ :
      ∃ result, clipping.drawFrom 4 1 #[0xFF] 0 1 = .ok result :=
    ⟨_, clipping.drawFrom_eq_draw 4 1 (by decide)⟩
  rw [left] at struck
  rw [right] at struck'
  cases struck
  cases struck'
  obtain ⟨wrapped, _, drawn, alike, _, collides⟩ :=
    (clipping_agrees_with_wrapping twins 0 1 #[0xFF] 0 1).2 _ _ left
  obtain ⟨wrapped', _, drawn', _, split, collides'⟩ :=
    (clipping_agrees_with_wrapping twins 4 1 #[0xFF] 0 1).2 _ _ right
  have apart := split (by decide) (by decide) ⟨by decide, by decide⟩
  cases collides rfl
  cases collides' rfl
  rw [drawn'] at dark
  exact ⟨clipping, wrapping, twins, ⟨clipped, wrapped, left, drawn, (alike framed).1⟩,
    clipped', wrapped', right, drawn', (apart 5 1 ⟨by decide, by decide⟩).1 (by decide),
    (apart 1 1 ⟨by decide, by decide⟩).2 (by decide), Option.some.inj dark⟩

end Chip8.Screen

import Chip8.Screen

/-!
# Pixels of a screen

A screen is determined by its shape and by the pixels at its positions.
Coordinates land on at most one position: on a wrapping screen on the one that is
congruent to them, and on the other kind on themselves if they are a position.
Toggling changes exactly the pixel that the coordinates land on, because two
positions never share an index of the row-major array.
-/

namespace Chip8.Screen

/-! ## Shapes and positions -/

/-- Two screens have the same dimensions and are of the same kind. -/
structure SameShape (first second : Screen) : Prop where
  width : second.width = first.width
  height : second.height = first.height
  wraps : second.wraps = first.wraps

theorem SameShape.refl (screen : Screen) : screen.SameShape screen :=
  ⟨rfl, rfl, rfl⟩

theorem SameShape.symm {first second : Screen} (shape : first.SameShape second) :
    second.SameShape first :=
  ⟨shape.width.symm, shape.height.symm, shape.wraps.symm⟩

theorem SameShape.trans {first second third : Screen} (left : first.SameShape second)
    (right : second.SameShape third) : first.SameShape third :=
  ⟨right.width.trans left.width, right.height.trans left.height, right.wraps.trans left.wraps⟩

theorem SameShape.size_pixels_eq {first second : Screen} (shape : first.SameShape second) :
    second.pixels.size = first.pixels.size := by
  rw [second.size_pixels, first.size_pixels, shape.width, shape.height]

/-- The column and the row are a position of the screen. -/
def OnScreen (screen : Screen) (column row : Nat) : Prop :=
  column < screen.width ∧ row < screen.height

/-- The coordinates stand for the given column and row: modulo the dimensions on
a wrapping screen, and as they are on the other kind. -/
def LandsOn (screen : Screen) (x y column row : Nat) : Prop :=
  if screen.wraps then x % screen.width = column ∧ y % screen.height = row
  else x = column ∧ y = row

instance (screen : Screen) (x y column row : Nat) : Decidable (screen.LandsOn x y column row) :=
  inferInstanceAs (Decidable (if screen.wraps then _ else _))

theorem SameShape.onScreen_iff {first second : Screen} (shape : first.SameShape second)
    (column row : Nat) : second.OnScreen column row ↔ first.OnScreen column row := by
  rw [OnScreen, OnScreen, shape.width, shape.height]

theorem SameShape.landsOn_iff {first second : Screen} (shape : first.SameShape second)
    (x y column row : Nat) : second.LandsOn x y column row ↔ first.LandsOn x y column row := by
  rw [LandsOn, LandsOn, shape.width, shape.height, shape.wraps]

theorem locate?_eq_some_iff (screen : Screen) (x y column row : Nat) :
    screen.locate? x y = some (column, row) ↔
      screen.OnScreen column row ∧ screen.LandsOn x y column row := by
  have columnBound := Nat.mod_lt x screen.width_pos
  have rowBound := Nat.mod_lt y screen.height_pos
  unfold locate? OnScreen LandsOn
  split
  · simp only [Option.some.injEq, Prod.mk.injEq]
    constructor
    · rintro ⟨rfl, rfl⟩
      exact ⟨⟨columnBound, rowBound⟩, rfl, rfl⟩
    · exact fun landing => landing.2
  · split
    · next inside =>
        simp only [Option.some.injEq, Prod.mk.injEq]
        constructor
        · rintro ⟨rfl, rfl⟩
          exact ⟨inside, rfl, rfl⟩
        · exact fun landing => landing.2
    · next outside =>
        simp only [reduceCtorEq, false_iff]
        rintro ⟨inside, rfl, rfl⟩
        exact outside inside

theorem locate?_eq_none_iff (screen : Screen) (x y : Nat) :
    screen.locate? x y = none ↔
      ∀ column row, screen.OnScreen column row → ¬ screen.LandsOn x y column row := by
  constructor
  · intro nowhere column row inside landing
    have somewhere := (screen.locate?_eq_some_iff x y column row).mpr ⟨inside, landing⟩
    rw [nowhere] at somewhere
    cases somewhere
  · intro nowhere
    cases located : screen.locate? x y with
    | none => rfl
    | some position =>
        obtain ⟨column, row⟩ := position
        obtain ⟨inside, landing⟩ := (screen.locate?_eq_some_iff x y column row).mp located
        exact absurd landing (nowhere column row inside)

/-- Coordinates land on one position only. -/
theorem LandsOn.unique {screen : Screen} {x y column row column' row' : Nat}
    (first : screen.LandsOn x y column row) (second : screen.LandsOn x y column' row') :
    column = column' ∧ row = row' := by
  unfold LandsOn at first second
  split at first
  · rw [if_pos ‹_›] at second
    exact ⟨first.1.symm.trans second.1, first.2.symm.trans second.2⟩
  · rw [if_neg ‹_›] at second
    exact ⟨first.1.symm.trans second.1, first.2.symm.trans second.2⟩

/-- A position lands on itself. -/
theorem landsOn_self {screen : Screen} {column row : Nat} (inside : screen.OnScreen column row) :
    screen.LandsOn column row column row := by
  unfold LandsOn
  split
  · exact ⟨Nat.mod_eq_of_lt inside.1, Nat.mod_eq_of_lt inside.2⟩
  · exact ⟨rfl, rfl⟩

/-! ## The index of a position -/

/-- Two positions with the same index are the same. -/
theorem index_injective {width column row column' row' : Nat} (first : column < width)
    (second : column' < width) (same : row * width + column = row' * width + column') :
    column = column' ∧ row = row' := by
  have columns : column = column' := by
    have remainders := congrArg (· % width) same
    simpa only [Nat.mul_add_mod_self_right, Nat.mod_eq_of_lt first, Nat.mod_eq_of_lt second]
      using remainders
  subst columns
  have products : row * width = row' * width := Nat.add_right_cancel same
  exact ⟨rfl, Nat.eq_of_mul_eq_mul_right (Nat.lt_of_le_of_lt (Nat.zero_le _) first) products⟩

theorem index_lt {screen : Screen} {column row : Nat} (inside : screen.OnScreen column row) :
    row * screen.width + column < screen.pixels.size := by
  have rows : (row + 1) * screen.width ≤ screen.height * screen.width :=
    Nat.mul_le_mul_right _ inside.2
  rw [Nat.succ_mul, Nat.mul_comm screen.height] at rows
  rw [screen.size_pixels]
  have columns := inside.1
  omega

theorem pixel_eq_getD {screen : Screen} {column row : Nat}
    (inside : screen.OnScreen column row) :
    screen.pixel column row = screen.pixels.getD (row * screen.width + column) false := by
  have located := (screen.locate?_eq_some_iff column row column row).mpr
    ⟨inside, landsOn_self inside⟩
  rw [pixel, located]

/-- A screen is determined by its shape and its pixels. -/
theorem eq_of_pixels {first second : Screen} (shape : first.SameShape second)
    (pixels : ∀ column row, first.OnScreen column row →
      second.pixel column row = first.pixel column row) : second = first := by
  have arrays : second.pixels = first.pixels := by
    apply Array.ext
    · rw [first.size_pixels, second.size_pixels, shape.width, shape.height]
    · intro index secondBound firstBound
      -- every index is the index of a position, found by division
      have inside : first.OnScreen (index % first.width) (index / first.width) := by
        refine ⟨Nat.mod_lt _ first.width_pos, Nat.div_lt_of_lt_mul ?_⟩
        rw [← first.size_pixels]
        exact firstBound
      have joined : index / first.width * first.width + index % first.width = index := by
        rw [Nat.mul_comm]
        exact Nat.div_add_mod index first.width
      have same := pixels _ _ inside
      rw [pixel_eq_getD inside, pixel_eq_getD ((shape.onScreen_iff _ _).mpr inside),
        shape.width, joined] at same
      simpa [Array.getD, firstBound, secondBound] using same
  cases first
  cases second
  obtain ⟨widths, heights, kinds⟩ := shape
  simp only at widths heights kinds arrays
  subst widths heights kinds arrays
  rfl

/-! ## Clearing -/

theorem sameShape_clear (screen : Screen) : screen.SameShape screen.clear :=
  ⟨rfl, rfl, rfl⟩

theorem pixel_clear {screen : Screen} {column row : Nat} (inside : screen.OnScreen column row) :
    screen.clear.pixel column row = false := by
  have insideAfter := (screen.sameShape_clear.onScreen_iff column row).mpr inside
  rw [pixel_eq_getD insideAfter]
  simp [clear, Array.getD]

/-- A screen with every pixel off is the cleared screen of its shape. -/
theorem eq_clear_of_dark {first second : Screen} (shape : first.SameShape second)
    (dark : ∀ column row, second.OnScreen column row → second.pixel column row = false) :
    second = first.clear := by
  refine eq_of_pixels ⟨shape.width, shape.height, shape.wraps⟩ fun column row inside => ?_
  have insideFirst : first.OnScreen column row := inside
  rw [pixel_clear insideFirst, dark column row ((shape.onScreen_iff column row).mpr insideFirst)]

/-! ## Toggling one pixel -/

theorem sameShape_toggle (screen : Screen) (x y : Nat) :
    screen.SameShape (screen.toggle x y).1 := by
  unfold toggle
  split
  · exact ⟨rfl, rfl, rfl⟩
  · exact SameShape.refl screen

theorem getD_modify_not (pixels : Array Bool) (index other : Nat)
    (bound : other < pixels.size) :
    (pixels.modify index not).getD other false =
      (pixels.getD other false ^^ decide (index = other)) := by
  simp only [Array.getD, Array.size_modify, bound, ↓reduceDIte, Array.getInternal_eq_getElem,
    Array.getElem_modify]
  by_cases same : index = other
  · rw [if_pos same, decide_eq_true same, Bool.xor_true]
  · rw [if_neg same, decide_eq_false same, Bool.xor_false]

/-- Toggling changes the pixel that the coordinates land on and no other. -/
theorem pixel_toggle {screen : Screen} {column row : Nat} (inside : screen.OnScreen column row)
    (x y : Nat) :
    (screen.toggle x y).1.pixel column row =
      (screen.pixel column row ^^ decide (screen.LandsOn x y column row)) := by
  have insideAfter := ((screen.sameShape_toggle x y).onScreen_iff column row).mpr inside
  rw [pixel_eq_getD insideAfter, pixel_eq_getD inside, (screen.sameShape_toggle x y).width]
  cases located : screen.locate? x y with
  | none =>
      have elsewhere := (screen.locate?_eq_none_iff x y).mp located column row inside
      rw [decide_eq_false elsewhere, Bool.xor_false]
      simp only [toggle, located]
  | some position =>
      obtain ⟨column', row'⟩ := position
      obtain ⟨inside', landing⟩ := (screen.locate?_eq_some_iff x y column' row').mp located
      simp only [toggle, located]
      rw [getD_modify_not _ _ _ (index_lt inside)]
      congr 1
      apply decide_eq_decide.mpr
      constructor
      · intro same
        obtain ⟨rfl, rfl⟩ := index_injective inside'.1 inside.1 same
        exact landing
      · intro landing'
        obtain ⟨rfl, rfl⟩ := landing.unique landing'
        rfl

/-- Toggling reports the pixels that were on. -/
theorem toggle_reports_iff (screen : Screen) (x y : Nat) :
    (screen.toggle x y).2 = true ↔
      ∃ column row, screen.OnScreen column row ∧ screen.LandsOn x y column row ∧
        screen.pixel column row = true := by
  cases located : screen.locate? x y with
  | none =>
      have nowhere := (screen.locate?_eq_none_iff x y).mp located
      simp only [toggle, located, Bool.false_eq_true, false_iff]
      rintro ⟨column, row, inside, landing, _⟩
      exact nowhere column row inside landing
  | some position =>
      obtain ⟨column', row'⟩ := position
      obtain ⟨inside', landing'⟩ := (screen.locate?_eq_some_iff x y column' row').mp located
      simp only [toggle, located]
      rw [← pixel_eq_getD inside']
      constructor
      · exact fun lit => ⟨column', row', inside', landing', lit⟩
      · rintro ⟨column, row, _, landing, lit⟩
        obtain ⟨rfl, rfl⟩ := landing'.unique landing
        exact lit

end Chip8.Screen

import Chip8.Proofs.Pixels
import Mathlib.Algebra.BigOperators.Group.Finset.Piecewise
import Mathlib.Algebra.BigOperators.Group.Finset.Sigma
import Mathlib.Data.Nat.ModEq

/-!
# Sprites against a count of bits

Drawing toggles one pixel after another.  The result does not depend on the
order: a pixel changes if an odd number of set bits land on it.  A collision is
reported if a pixel that was on is hit at all, or one that was off is hit twice.
Both facts are proved for partial draws first, with the number of cells that were
toggled so far in place of the number of bits of the sprite.

A pixel is hit more than once only on a wrapping screen that is narrower than the
eight columns or lower than the rows of the sprite.
-/

namespace Chip8.Screen

/-! ## Toggling many pixels -/

/-- The number of cells that land on a position. -/
def landings (screen : Screen) (cells : List (Nat × Nat)) (column row : Nat) : Nat :=
  cells.countP fun cell => screen.LandsOn cell.1 cell.2 column row

theorem SameShape.landings_eq {first second : Screen} (shape : first.SameShape second)
    (cells : List (Nat × Nat)) (column row : Nat) :
    second.landings cells column row = first.landings cells column row := by
  simp only [landings, shape.landsOn_iff]

theorem landings_cons (screen : Screen) (x y : Nat) (cells : List (Nat × Nat))
    (column row : Nat) :
    screen.landings ((x, y) :: cells) column row =
      screen.landings cells column row + if screen.LandsOn x y column row then 1 else 0 := by
  simp only [landings, List.countP_cons, decide_eq_true_eq]

theorem sameShape_toggleAll (screen : Screen) (cells : List (Nat × Nat)) :
    screen.SameShape (screen.toggleAll cells).1 := by
  induction cells generalizing screen with
  | nil => exact SameShape.refl screen
  | cons cell rest induction =>
      obtain ⟨x, y⟩ := cell
      exact (screen.sameShape_toggle x y).trans (induction (screen.toggle x y).1)

theorem toggleAll_append (screen : Screen) (first second : List (Nat × Nat)) :
    screen.toggleAll (first ++ second) =
      (((screen.toggleAll first).1.toggleAll second).1,
        (screen.toggleAll first).2 || ((screen.toggleAll first).1.toggleAll second).2) := by
  induction first generalizing screen with
  | nil => rfl
  | cons cell rest induction =>
      obtain ⟨x, y⟩ := cell
      simp only [List.cons_append, toggleAll, induction, Bool.or_assoc]

/-- Many toggles change the pixels that an odd number of cells land on. -/
theorem pixel_toggleAll {screen : Screen} {column row : Nat}
    (inside : screen.OnScreen column row) (cells : List (Nat × Nat)) :
    (screen.toggleAll cells).1.pixel column row =
      (screen.pixel column row ^^ decide (screen.landings cells column row % 2 = 1)) := by
  induction cells generalizing screen with
  | nil => simp [toggleAll, landings]
  | cons cell rest induction =>
      obtain ⟨x, y⟩ := cell
      have shape := screen.sameShape_toggle x y
      have later := induction ((shape.onScreen_iff column row).mpr inside)
      rw [shape.landings_eq, pixel_toggle inside] at later
      rw [landings_cons]
      refine later.trans ?_
      rw [Bool.xor_assoc]
      congr 1
      by_cases landing : screen.LandsOn x y column row
      · rw [decide_eq_true landing, if_pos landing, Bool.true_xor, ← decide_not]
        apply decide_eq_decide.mpr
        omega
      · rw [decide_eq_false landing, if_neg landing, Bool.false_xor, Nat.add_zero]

/-- A pixel that was on and is hit, or that was off and is hit again. -/
def SwitchedOff (lit : Bool) (hits : Nat) : Prop :=
  lit = true ∧ 1 ≤ hits ∨ lit = false ∧ 2 ≤ hits

/-- One more hit at the front switches a pixel off at once if it is on, and leaves
the other hits to a pixel of the opposite state. -/
theorem switchedOff_succ (lit : Bool) (hits : Nat) :
    SwitchedOff lit (hits + 1) ↔ lit = true ∨ SwitchedOff (!lit) hits := by
  cases lit <;> simp [SwitchedOff]

/-- Many toggles report the pixels that were on and hit, or off and hit twice. -/
theorem toggleAll_reports_iff (screen : Screen) (cells : List (Nat × Nat)) :
    (screen.toggleAll cells).2 = true ↔
      ∃ column row, screen.OnScreen column row ∧
        SwitchedOff (screen.pixel column row) (screen.landings cells column row) := by
  induction cells generalizing screen with
  | nil => simp [toggleAll, landings, SwitchedOff]
  | cons cell rest induction =>
      obtain ⟨x, y⟩ := cell
      have shape := screen.sameShape_toggle x y
      have step : (screen.toggleAll ((x, y) :: rest)).2 =
          ((screen.toggle x y).2 || ((screen.toggle x y).1.toggleAll rest).2) := rfl
      rw [step, Bool.or_eq_true, toggle_reports_iff, induction]
      -- where the front cell lands, the later cells meet the toggled pixel
      have atPosition : ∀ column row, screen.OnScreen column row →
          (SwitchedOff (screen.pixel column row) (screen.landings ((x, y) :: rest) column row) ↔
            (screen.LandsOn x y column row ∧ screen.pixel column row = true) ∨
              SwitchedOff ((screen.toggle x y).1.pixel column row)
                ((screen.toggle x y).1.landings rest column row)) := by
        intro column row inside
        rw [landings_cons, shape.landings_eq, pixel_toggle inside]
        by_cases landing : screen.LandsOn x y column row
        · rw [if_pos landing, decide_eq_true landing, Bool.xor_true, switchedOff_succ]
          simp only [landing, true_and]
        · rw [if_neg landing, decide_eq_false landing, Bool.xor_false, Nat.add_zero]
          simp only [landing, false_and, false_or]
      constructor
      · rintro (⟨column, row, inside, landing, lit⟩ | ⟨column, row, inside, off⟩)
        · exact ⟨column, row, inside, (atPosition column row inside).mpr (.inl ⟨landing, lit⟩)⟩
        · have insideBefore := (shape.onScreen_iff column row).mp inside
          exact ⟨column, row, insideBefore, (atPosition column row insideBefore).mpr (.inr off)⟩
      · rintro ⟨column, row, inside, off⟩
        rcases (atPosition column row inside).mp off with ⟨landing, lit⟩ | later
        · exact .inl ⟨column, row, inside, landing, lit⟩
        · exact .inr ⟨column, row, (shape.onScreen_iff column row).mpr inside, later⟩

/-! ## Counting the bits of a sprite -/

/-- The number of set bits of a sprite that land on a position.  The sprite has
its top left corner at `(x, y)`, and its rows are the bytes from the address on. -/
def hits (screen : Screen) (x y : Nat) (source : Array UInt8) (address rows column row : Nat) :
    Nat :=
  ((Finset.range rows ×ˢ Finset.range 8).filter fun cell =>
    (source.getD (address + cell.1) 0).toNat.testBit (7 - cell.2) = true ∧
      screen.LandsOn (x + cell.2) (y + cell.1) column row).card

theorem card_filter_range (count : Nat) (p : Nat → Bool) :
    ((Finset.range count).filter fun i => p i = true).card = (List.range count).countP p := by
  induction count with
  | zero => rfl
  | succ count induction =>
      rw [Finset.range_add_one, Finset.filter_insert, List.range_succ, List.countP_append,
        List.countP_singleton, ← induction]
      split
      · rw [Finset.card_insert_of_notMem (by simp)]
      · rw [Nat.add_zero]

/-- The cells of one sprite row that land on a position, counted by columns. -/
theorem landings_row (screen : Screen) (x y column row : Nat) (byte : UInt8) :
    screen.landings ((litColumns byte).map fun c => (x + c, y)) column row =
      ((Finset.range 8).filter fun c => byte.toNat.testBit (7 - c) = true ∧
        screen.LandsOn (x + c) y column row).card := by
  rw [landings, litColumns, List.countP_map, List.countP_filter, ← card_filter_range]
  congr 1
  apply Finset.filter_congr
  intro c _
  simp [and_comm]

/-- The cells of a sprite that land on a position, summed over the rows. -/
theorem landings_litCells (screen : Screen) (x y column row : Nat) (sprite : List UInt8) :
    screen.landings (litCells x y sprite) column row =
      ∑ r ∈ Finset.range sprite.length,
        ((Finset.range 8).filter fun c => (sprite.getD r 0).toNat.testBit (7 - c) = true ∧
          screen.LandsOn (x + c) (y + r) column row).card := by
  induction sprite generalizing y with
  | nil => rfl
  | cons byte rest induction =>
      rw [List.length_cons, Finset.sum_range_succ', litCells, landings, List.countP_append]
      rw [Nat.add_comm]
      congr 1
      · refine (induction (y + 1)).trans (Finset.sum_congr rfl fun r _ => ?_)
        rw [List.getD_cons_succ, Nat.add_assoc, Nat.add_comm 1 r]
      · exact screen.landings_row x y column row byte

theorem getD_extract {source : Array UInt8} {address rows r : Nat}
    (within : address + rows ≤ source.size) (bound : r < rows) :
    (source.extract address (address + rows)).toList.getD r 0 = source.getD (address + r) 0 := by
  have outer : address + r < source.size := by omega
  simp [List.getD_eq_getElem?_getD, Array.getD, outer, bound]

/-- The cells of a stored sprite that land on a position are its hits. -/
theorem landings_eq_hits {source : Array UInt8} {address rows : Nat}
    (within : address + rows ≤ source.size) (screen : Screen) (x y column row : Nat) :
    screen.landings (litCells x y (source.extract address (address + rows)).toList) column row =
      screen.hits x y source address rows column row := by
  have length : (source.extract address (address + rows)).toList.length = rows := by
    rw [Array.length_toList, Array.size_extract]
    omega
  rw [landings_litCells, length, hits, Finset.card_filter, Finset.sum_product]
  refine Finset.sum_congr rfl fun r membership => ?_
  rw [getD_extract within (Finset.mem_range.mp membership), Finset.card_filter]

/-! ## The reference -/

theorem drawFrom_eq_draw (screen : Screen) (x y : Nat) {source : Array UInt8}
    {address rows : Nat} (within : address + rows ≤ source.size) :
    screen.drawFrom x y source address rows =
      .ok (screen.draw x y (source.extract address (address + rows)).toList) := by
  rw [drawFrom, @Span.check_of_within ⟨address, rows⟩ source.size within]
  rfl

theorem drawFrom_eq_error (screen : Screen) (x y : Nat) {source : Array UInt8}
    {address rows : Nat} (outside : ¬ address + rows ≤ source.size) :
    screen.drawFrom x y source address rows =
      .error (.outsideMemory address rows source.size) := by
  rw [drawFrom, @Span.check_of_not_within ⟨address, rows⟩ source.size outside]
  rfl

theorem sameShape_draw (screen : Screen) (x y : Nat) (sprite : List UInt8) :
    screen.SameShape (screen.draw x y sprite).1 :=
  screen.sameShape_toggleAll (litCells x y sprite)

theorem pixel_draw {screen : Screen} {column row : Nat} (inside : screen.OnScreen column row)
    (x y : Nat) {source : Array UInt8} {address rows : Nat}
    (within : address + rows ≤ source.size) :
    (screen.draw x y (source.extract address (address + rows)).toList).1.pixel column row =
      (screen.pixel column row ^^
        decide (screen.hits x y source address rows column row % 2 = 1)) := by
  rw [draw, pixel_toggleAll inside, landings_eq_hits within]

theorem draw_reports_iff (screen : Screen) (x y : Nat) {source : Array UInt8}
    {address rows : Nat} (within : address + rows ≤ source.size) :
    (screen.draw x y (source.extract address (address + rows)).toList).2 = true ↔
      ∃ column row, screen.OnScreen column row ∧
        SwitchedOff (screen.pixel column row)
          (screen.hits x y source address rows column row) := by
  rw [draw, toggleAll_reports_iff]
  simp only [landings_eq_hits within]

/-- A position is hit twice only where columns or rows of the sprite meet again
behind the edge of a wrapping screen. -/
theorem wraps_of_two_hits {screen : Screen} {x y : Nat} {source : Array UInt8}
    {address rows column row : Nat}
    (twice : 2 ≤ screen.hits x y source address rows column row) :
    screen.wraps = true ∧ (screen.width < 8 ∨ screen.height < rows) := by
  obtain ⟨first, firstHit, second, secondHit, different⟩ := Finset.one_lt_card.mp twice
  obtain ⟨r, c⟩ := first
  obtain ⟨r', c'⟩ := second
  simp only [Finset.mem_filter, Finset.mem_product, Finset.mem_range] at firstHit secondHit
  obtain ⟨⟨rBound, cBound⟩, _, landing⟩ := firstHit
  obtain ⟨⟨rBound', cBound'⟩, _, landing'⟩ := secondHit
  unfold LandsOn at landing landing'
  by_cases wraps : screen.wraps
  · rw [if_pos wraps] at landing landing'
    refine ⟨wraps, ?_⟩
    by_contra large
    obtain ⟨wide, high⟩ := not_or.mp large
    have columns : c ≡ c' [MOD screen.width] :=
      Nat.ModEq.add_left_cancel' x (landing.1.trans landing'.1.symm)
    have rowsMeet : r ≡ r' [MOD screen.height] :=
      Nat.ModEq.add_left_cancel' y (landing.2.trans landing'.2.symm)
    have sameColumn := columns.eq_of_lt_of_lt (by omega) (by omega)
    have sameRow := rowsMeet.eq_of_lt_of_lt (by omega) (by omega)
    exact different (by rw [sameColumn, sameRow])
  · rw [if_neg wraps] at landing landing'
    have sameColumn : c = c' := by omega
    have sameRow : r = r' := by omega
    exact absurd (by rw [sameColumn, sameRow]) different

/-- Drawing a stored sprite is refused exactly if its rows leave the store.
Otherwise a pixel changes exactly if an odd number of set bits land on it, and a
collision is reported exactly if a pixel that was on is hit or one that was off is
hit twice, which takes a wrapping screen smaller than the sprite. -/
theorem drawFrom_eq_reference (screen : Screen) (x y : Nat) (source : Array UInt8)
    (address rows : Nat) :
    (screen.drawFrom x y source address rows =
        .error (.outsideMemory address rows source.size) ↔ source.size < address + rows) ∧
    (address + rows ≤ source.size →
      ∃ after collision, screen.drawFrom x y source address rows = .ok (after, collision) ∧
        screen.SameShape after ∧
        (∀ column row, screen.OnScreen column row →
          after.pixel column row =
            (screen.pixel column row ^^
              decide (screen.hits x y source address rows column row % 2 = 1))) ∧
        (collision = true ↔ ∃ column row, screen.OnScreen column row ∧
          SwitchedOff (screen.pixel column row)
            (screen.hits x y source address rows column row)) ∧
        ∀ column row, 2 ≤ screen.hits x y source address rows column row →
          screen.wraps = true ∧ (screen.width < 8 ∨ screen.height < rows)) := by
  by_cases within : address + rows ≤ source.size
  · have granted := screen.drawFrom_eq_draw x y within
    refine ⟨?_, fun _ => ⟨_, _, granted, sameShape_draw _ _ _ _, ?_,
      screen.draw_reports_iff x y within, ?_⟩⟩
    · rw [granted]
      simp only [reduceCtorEq, false_iff]
      omega
    · exact fun column row inside => pixel_draw inside x y within
    · exact fun column row => wraps_of_two_hits
  · refine ⟨?_, fun within' => absurd within' within⟩
    rw [screen.drawFrom_eq_error x y within]
    exact ⟨fun _ => Nat.lt_of_not_le within, fun _ => rfl⟩

/-- A full row on a blank screen of four columns hits every pixel twice. -/
example : ((Screen.blank 4 1 true).toOption.map fun screen => (screen.draw 0 0 [0xFF]).2) =
    some true := by decide

end Chip8.Screen

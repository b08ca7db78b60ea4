import Chip8.Font
import Chip8.Proofs.Bytes

/-!
# Fonts

The stride of a font is the height of its tallest glyph, so no glyph is higher and every
glyph has room before the next one.  A font takes one stride for each glyph.  Writing its
glyphs replaces bytes and never adds any.  It replaces the bytes of the glyphs only: what
stands between a short glyph and the next one is kept.
-/

namespace Chip8.Font

/-! ## Heights -/

theorem length_le_foldl_max (font : Font) (height : Nat) :
    height ≤ font.foldl (fun height glyph => max height glyph.length) height ∧
      ∀ glyph ∈ font,
        glyph.length ≤ font.foldl (fun height glyph => max height glyph.length) height := by
  induction font generalizing height with
  | nil => exact ⟨Nat.le_refl _, fun glyph impossible => by cases impossible⟩
  | cons first rest induction =>
      obtain ⟨above, others⟩ := induction (max height first.length)
      rw [List.foldl_cons]
      refine ⟨Nat.le_trans (Nat.le_max_left _ _) above, fun glyph among => ?_⟩
      rcases List.mem_cons.mp among with rfl | later
      · exact Nat.le_trans (Nat.le_max_right _ _) above
      · exact others glyph later

/-- No glyph is higher than the stride. -/
theorem length_le_stride {font : Font} {glyph : Glyph} (among : glyph ∈ font) :
    glyph.length ≤ font.stride :=
  (length_le_foldl_max font 0).2 glyph among

/-- The largest of the heights and a given one is that one or the height of a glyph. -/
theorem foldl_max_eq_or_exists (font : Font) (height : Nat) :
    font.foldl (fun height glyph => max height glyph.length) height = height ∨
      ∃ glyph ∈ font,
        glyph.length = font.foldl (fun height glyph => max height glyph.length) height := by
  induction font generalizing height with
  | nil => exact Or.inl rfl
  | cons first rest induction =>
      rw [List.foldl_cons]
      rcases induction (max height first.length) with same | ⟨glyph, later, same⟩
      · rw [same]
        rcases Nat.le_total height first.length with low | high
        · exact Or.inr ⟨first, List.mem_cons_self, (Nat.max_eq_right low).symm⟩
        · exact Or.inl (Nat.max_eq_left high)
      · exact Or.inr ⟨glyph, List.mem_cons_of_mem _ later, same⟩

/-- No glyph is higher, and some glyph is as high unless there are no glyphs. -/
structure Tallest (font : Font) (height : Nat) : Prop where
  above : ∀ glyph ∈ font, glyph.length ≤ height
  reached : font = [] ∧ height = 0 ∨ ∃ glyph ∈ font, glyph.length = height

theorem tallest_stride (font : Font) : font.Tallest font.stride where
  above _ among := length_le_stride among
  reached := by
    cases font with
    | nil => exact Or.inl ⟨rfl, rfl⟩
    | cons first rest =>
        rcases foldl_max_eq_or_exists (first :: rest) 0 with flat | found
        · -- at stride zero the first glyph has no rows
          have low := length_le_stride (List.mem_cons_self (a := first) (l := rest))
          rw [stride, flat] at low
          exact Or.inr ⟨first, List.mem_cons_self, (Nat.le_zero.mp low).trans flat.symm⟩
        · exact Or.inr found

theorem stride_le_extent (font : Font) : font.stride ≤ font.extent := by
  cases font with
  | nil => exact Nat.zero_le _
  | cons glyph rest => exact Nat.le_mul_of_pos_left _ (Nat.succ_pos _)

/-! ## Writing glyphs -/

@[simp]
theorem size_place (bytes : Array UInt8) (address stride : Nat) (font : Font) :
    (font.place bytes address stride).size = bytes.size := by
  induction font generalizing bytes address with
  | nil => rfl
  | cons glyph rest induction => rw [place, induction, Memory.size_overwrite]

/-- Glyphs without rows leave the bytes alone. -/
theorem place_of_empty {font : Font} (empty : ∀ glyph ∈ font, glyph.length = 0)
    (bytes : Array UInt8) (address stride : Nat) : font.place bytes address stride = bytes := by
  induction font generalizing address with
  | nil => rfl
  | cons glyph rest induction =>
      obtain ⟨first, others⟩ := List.forall_mem_cons.mp empty
      rw [place, List.length_eq_zero_iff.mp first]
      exact induction others _

/-! ## Places of glyphs -/

/-- The address holds a row of a glyph, where the glyphs stand one stride apart from the
start on. -/
def Covers (font : Font) (start stride address : Nat) : Prop :=
  ∃ number glyph, font[number]? = some glyph ∧
    start + number * stride ≤ address ∧ address < start + number * stride + glyph.length

variable {font : Font} {glyph : Glyph} {bytes : Array UInt8} {start stride : Nat}

theorem add_succ_mul (start stride number : Nat) :
    start + (number + 1) * stride = start + stride + number * stride := by
  rw [Nat.succ_mul, Nat.add_assoc, Nat.add_comm stride]

theorem covers_cons_of_rest {address : Nat} (first : Glyph)
    (covers : font.Covers (start + stride) stride address) :
    Covers (first :: font) start stride address := by
  obtain ⟨number, glyph, found, low, high⟩ := covers
  refine ⟨number + 1, glyph, found, ?_, ?_⟩
  · rwa [add_succ_mul]
  · rwa [add_succ_mul]

theorem getD_place_of_not_covers {address : Nat} (bound : address < bytes.size)
    (outside : ¬ font.Covers start stride address) :
    (font.place bytes start stride).getD address 0 = bytes.getD address 0 := by
  induction font generalizing bytes start with
  | nil => rfl
  | cons first rest induction =>
      have kept : address < (Memory.overwrite bytes start first).size := by
        rwa [Memory.size_overwrite]
      have apart : ¬ (start ≤ address ∧ address < start + first.length) := fun inside =>
        outside ⟨0, first, rfl, by simpa using inside⟩
      rw [place, induction kept fun covers => outside (covers_cons_of_rest first covers),
        Memory.getD_overwrite bound, if_neg apart]

/-- The rows of a glyph stand at its place, because no later glyph reaches back. -/
theorem getD_place (low : ∀ glyph ∈ font, glyph.length ≤ stride) {number row : Nat}
    (found : font[number]? = some glyph) (inside : row < glyph.length)
    (bound : start + number * stride + row < bytes.size) :
    (font.place bytes start stride).getD (start + number * stride + row) 0 = glyph.getD row 0 := by
  induction font generalizing bytes start number with
  | nil => cases found
  | cons first rest induction =>
      obtain ⟨lowFirst, lowRest⟩ := List.forall_mem_cons.mp low
      have kept : start + number * stride + row < (Memory.overwrite bytes start first).size := by
        rwa [Memory.size_overwrite]
      rw [place]
      cases number with
      | zero =>
          obtain rfl := Option.some.inj found
          rw [Nat.zero_mul, Nat.add_zero] at bound kept ⊢
          have apart : ¬ Covers rest (start + stride) stride (start + row) := by
            rintro ⟨later, _, _, reached, _⟩
            omega
          rw [getD_place_of_not_covers kept apart, Memory.getD_overwrite bound,
            if_pos (by omega), Nat.add_sub_cancel_left]
      | succ number =>
          rw [add_succ_mul] at kept ⊢
          exact induction lowRest found kept

end Chip8.Font

namespace Chip8.Memory

/-! ## Memories with a font -/

/-- Every glyph can be read at its place, one stride behind the one before, and all bytes
that no glyph covers are as before. -/
structure Furnished (before : Memory) (start stride : Nat) (font : Font) (after : Memory) :
    Prop where
  size : after.size = before.size
  glyphs : ∀ number glyph, font[number]? = some glyph →
    after.read (start + number * stride) glyph.length = .ok glyph
  rest : ∀ address, address < before.size → ¬ font.Covers start stride address →
    after.byteAt address = before.byteAt address

theorem furnished_place {memory : Memory} {start : Nat} {font : Font}
    (fits : start + font.extent ≤ memory.size) :
    memory.Furnished start font.stride font ⟨font.place memory.bytes start font.stride⟩ where
  size := Font.size_place _ _ _ _
  glyphs number glyph found := by
    have among : glyph ∈ font := List.mem_of_getElem? found
    have counted : (number + 1) * font.stride ≤ font.extent :=
      Nat.mul_le_mul_right _ (List.getElem?_eq_some_iff.mp found).1
    have low := Font.length_le_stride among
    rw [Nat.succ_mul] at counted
    have within : start + number * font.stride + glyph.length ≤ memory.size := by omega
    apply read_of_bytes
    · rwa [Memory.size, Font.size_place]
    · intro row inside
      apply Font.getD_place (fun _ => Font.length_le_stride) found inside
      rw [Memory.size] at within
      omega
  rest _ bound outside := Font.getD_place_of_not_covers bound outside

end Chip8.Memory

import Chip8.Proofs.Deeds
import Chip8.Proofs.Failures

/-!
# Glyphs

Loading a font writes its glyphs into memory and notes their place.  Nothing but another
font changes that note: no instruction does, and no other request.  Therefore the
instruction that points at a glyph finds the address where the glyph was written, whatever
was done since (`Machine.glyphs_found_where_written`).  The bytes at that address are
another matter, because a program can write over its font.

A machine is built by loading the hexadecimal digits, so it can be built wherever they fit
and the screen has pixels.
-/

namespace Chip8.Machine

variable {machine after start : Machine} {address : UInt16} {font : Font} {fault : Fault}

/-! ## Loading a font -/

theorem exists_loadFont_iff :
    (∃ after, machine.loadFont address font = .ok after) ↔
      address.toNat + font.length * font.stride ≤ machine.memory.size := by
  constructor
  · rintro ⟨after, loaded⟩
    exact (loadFont_eq_ok_iff.mp loaded).1
  · intro fits
    exact ⟨_, loadFont_eq_ok_iff.mpr ⟨fits, rfl⟩⟩

/-- The glyphs are in memory, the machine knows where, and all else is as before. -/
structure Equipped (machine : Machine) (address : UInt16) (font : Font) (after : Machine) :
    Prop where
  memory : machine.memory.Furnished address.toNat font.stride font after.memory
  rest : after = { machine with memory := after.memory, font := ⟨address, font.stride⟩ }

theorem equipped_of_loadFont (loaded : machine.loadFont address font = .ok after) :
    machine.Equipped address font after := by
  obtain ⟨fits, rfl⟩ := loadFont_eq_ok_iff.mp loaded
  exact ⟨Memory.furnished_place fits, rfl⟩

/-! ## The place of the font -/

theorem lasting_font (place : FontPlace) : Lasting fun machine => machine.font = place where
  advanced _ _ noted := noted
  awoken _ _ noted awoken := (sameFixtures_awaken awoken).font.trans noted
  executed machine noted := machine.sameFixtures_execute.font.trans noted

/-- While no other font is asked for, every instruction finds the font where it was. -/
theorem font_of_executed {requests : List Request}
    (plain : ∀ request ∈ requests, request.loadsFont = false)
    (done : Deed.executed start ∈ machine.deedsAll requests) : start.font = machine.font := by
  have kept : ∀ request ∈ requests, request.runs = false → ∀ before : Machine,
      before.font = machine.font → (before.answer request).machine.font = machine.font := by
    intro request among _ before noted
    rw [before.font_answer (plain request among)]
    exact noted
  have below := ((lasting_font machine.font).by_of_mem_deedsAll kept rfl).2
  exact below _ done

/-! ## Pointing at a glyph -/

theorem execute_pointAtGlyph {word : UInt16} {x : Register}
    (held : start.memory.HoldsWord start.pc.toNat word)
    (number : word.toNat = 0xF029 + x * 0x100) :
    start.execute =
      ⟨{ start with
          index := start.glyphAddress (start.register x)
          pc := start.pc + 2
          unhandled := false }, none⟩ := by
  rw [execute, @step_eq_perform _ _ (.pointAtGlyph x) held number]
  rfl

/-- Executing leads the index register to the place of the glyph whose number a register
holds, modulo the size of a word.  If the place is below that size, the glyph can be read
there in the memory. -/
def FindsGlyph (start : Machine) (x : Register) (address : Nat) (font : Font)
    (memory : Memory) : Prop :=
  ∃ index : UInt16,
    start.execute = ⟨{ start with index, pc := start.pc + 2, unhandled := false }, none⟩ ∧
    index.toNat = (address + (start.register x).toNat * font.stride) % 0x10000 ∧
    ∀ glyph, font[(start.register x).toNat]? = some glyph →
      address + (start.register x).toNat * font.stride < 0x10000 →
        memory.read index.toNat glyph.length = .ok glyph

theorem Equipped.findsGlyph (equipped : machine.Equipped address font after)
    (noted : start.font = after.font) {word : UInt16} {x : Register}
    (held : start.memory.HoldsWord start.pc.toNat word)
    (number : word.toNat = 0xF029 + x * 0x100) :
    start.FindsGlyph x address.toNat font after.memory := by
  have place : start.font = ⟨address, font.stride⟩ := by rw [noted, equipped.rest]
  have index : (start.glyphAddress (start.register x)).toNat =
      (address.toNat + (start.register x).toNat * font.stride) % 0x10000 := by
    rw [glyphAddress, place]
    exact UInt16.toNat_ofNat'
  refine ⟨_, execute_pointAtGlyph held number, index, fun glyph found low => ?_⟩
  rw [index, Nat.mod_eq_of_lt low]
  exact equipped.memory.glyphs _ glyph found

/-! ## Building -/

/-- A machine is refused for its screen, or else for a font that does not fit. -/
theorem build_eq_error_iff {config : Config} {source : RandomSource} :
    build config source = .error fault ↔
      (¬ (0 < config.width ∧ 0 < config.height) ∧
        fault = .emptyScreen config.width config.height) ∨
      ((0 < config.width ∧ 0 < config.height) ∧
        ¬ config.fontStart.toNat + 80 ≤ config.memorySize ∧
        fault = .outsideMemory config.fontStart.toNat 80 config.memorySize) := by
  by_cases lit : 0 < config.width ∧ 0 < config.height
  · have built : ∃ screen, build config source =
        (unloaded config source screen).loadFont config.fontStart Font.hexadecimal := by
      rw [build_eq_loadFont, Screen.blank, dif_pos lit]
      exact ⟨_, rfl⟩
    obtain ⟨screen, built⟩ := built
    have size : (unloaded config source screen).memory.size = config.memorySize :=
      Memory.size_blank _
    rw [built, loadFont_eq_error_iff, size, Font.extent_hexadecimal]
    simp only [lit, not_true_eq_false, false_and, false_or, true_and]
  · have refused : build config source =
        .error (.emptyScreen config.width config.height) := by
      rw [build, Screen.blank, dif_neg lit]
      rfl
    rw [refused, Except.error.injEq, eq_comm]
    simp only [lit, not_false_eq_true, true_and, false_and, or_false]

theorem exists_build_iff {config : Config} {source : RandomSource} :
    (∃ machine, build config source = .ok machine) ↔
      0 < config.width ∧ 0 < config.height ∧
        config.fontStart.toNat + 80 ≤ config.memorySize := by
  have refused := fun fault => @build_eq_error_iff fault config source
  cases built : build config source with
  | ok machine =>
      have granted : ¬ (¬ (0 < config.width ∧ 0 < config.height) ∨
          (0 < config.width ∧ 0 < config.height) ∧
            ¬ config.fontStart.toNat + 80 ≤ config.memorySize) := by
        rintro (dark | ⟨lit, outside⟩)
        · cases built.symm.trans ((refused _).mpr (Or.inl ⟨dark, rfl⟩))
        · cases built.symm.trans ((refused _).mpr (Or.inr ⟨lit, outside, rfl⟩))
      constructor
      · intro _
        omega
      · intro _
        exact ⟨machine, rfl⟩
  | error fault =>
      constructor
      · rintro ⟨machine, impossible⟩
        cases impossible
      · rintro ⟨column, row, fits⟩
        rcases (refused fault).mp built with ⟨dark, _⟩ | ⟨_, outside, _⟩
        · exact absurd ⟨column, row⟩ dark
        · exact absurd fits outside

/-! ## Glyphs in memory -/

/-- A font is loaded exactly if one stride fits for each of its glyphs, where the stride is
the height of a tallest glyph.  Its glyphs are then in memory and all bytes beside them are
kept, and where it does not fit nothing changes at all.  Until another font is asked for, the
instruction that points at a glyph finds the address at which the glyph was written.  A
machine is built if its screen has pixels and the hexadecimal digits fit, and without pixels
it is refused for its screen. -/
theorem glyphs_found_where_written :
    (∀ (machine : Machine) (address : UInt16) (font : Font),
      font.Tallest font.stride ∧
      ((∃ after, machine.loadFont address font = .ok after) ↔
        address.toNat + font.length * font.stride ≤ machine.memory.size) ∧
      (∀ after fault,
        machine.answer (.loadFont address font) = ⟨after, some fault⟩ → after = machine) ∧
      ∀ after, machine.loadFont address font = .ok after →
        machine.Equipped address font after ∧
        ∀ requests : List Request, (∀ request ∈ requests, request.loadsFont = false) →
          ∀ start, Deed.executed start ∈ after.deedsAll requests →
            ∀ word x, start.memory.HoldsWord start.pc.toNat word →
              word.toNat = 0xF029 + (x : Register) * 0x100 →
                start.FindsGlyph x address.toNat font after.memory) ∧
    ∀ (config : Config) (source : RandomSource),
      ((∃ machine, build config source = .ok machine) ↔
        0 < config.width ∧ 0 < config.height ∧
          config.fontStart.toNat + 80 ≤ config.memorySize) ∧
      ∀ fault, build config source = .error fault ↔
        (¬ (0 < config.width ∧ 0 < config.height) ∧
          fault = .emptyScreen config.width config.height) ∨
        ((0 < config.width ∧ 0 < config.height) ∧
          ¬ config.fontStart.toNat + 80 ≤ config.memorySize ∧
          fault = .outsideMemory config.fontStart.toNat 80 config.memorySize) := by
  constructor
  · intro machine address font
    refine ⟨font.tallest_stride, exists_loadFont_iff, ?_, ?_⟩
    · intro after fault refused
      exact ((answer_eq_fault_iff rfl).mp refused).2
    · intro after loaded
      have equipped := equipped_of_loadFont loaded
      refine ⟨equipped, fun requests plain start done word x held number => ?_⟩
      exact equipped.findsGlyph (font_of_executed plain done) held number
  · intro config source
    exact ⟨exists_build_iff, fun _ => build_eq_error_iff⟩

/-- A font of three glyphs, one of them without rows, ends with the memory, and one byte later
it is refused.  The last glyph is found by a program that was loaded after the font. -/
theorem ragged_font_found_at_end_of_memory :
    ∃ machine after start left : Machine, ∃ font : Font, ∃ requests : List Request,
      font = [[0x80], [], [0xFF, 0x81, 0xFF]] ∧
      requests = [.loadProgram ⟨[0x61, 0x02, 0xF1, 0x29], none⟩, .execute, .press 3, .execute] ∧
      boot { width := 8, height := 1, memorySize := 0x70, start := 0x50 } 0 = .ok machine ∧
      machine.loadFont 0x67 font = .ok after ∧
      Deed.executed start ∈ after.deedsAll requests ∧
      start.FindsGlyph 1 0x67 font after.memory ∧ start.execute.machine.index = 0x6D ∧
      machine.answer (.loadFont 0x68 font) = ⟨left, some (.outsideMemory 0x68 9 0x70)⟩ ∧
      left = machine := by
  let font : Font := [[0x80], [], [0xFF, 0x81, 0xFF]]
  let requests : List Request :=
    [.loadProgram ⟨[0x61, 0x02, 0xF1, 0x29], none⟩, .execute, .press 3, .execute]
  let reached (machine : Machine) : Machine :=
    (machine.answer (.loadFont 0x67 font)).machine.afterAll (requests.take 3)
  have made :
      ((boot { width := 8, height := 1, memorySize := 0x70, start := 0x50 } 0).map fun machine =>
        decide ((reached machine).operation? = some (.pointAtGlyph 1)) &&
          decide ((reached machine).execute.machine.index = 0x6D)).toOption = some true := by
    decide +kernel
  obtain ⟨machine, built, made⟩ := exists_ok_of_map made
  simp only [Bool.and_eq_true, decide_eq_true_eq] at made
  obtain ⟨asked, index⟩ := made
  have size : machine.memory.size = 0x70 := (atRest_of_build built).size
  obtain ⟨_, granted, _, finds⟩ := glyphs_found_where_written.1 machine 0x67 font
  obtain ⟨after, loaded⟩ := granted.mpr (by rw [size]; decide)
  have same : reached machine = after.afterAll (requests.take 3) := by
    simp only [reached, answer, loaded, Outcome.ofResult]
  rw [same] at asked index
  obtain ⟨word, held, number⟩ := operation?_eq_some_iff.mp asked
  have done : Deed.executed (after.afterAll (requests.take 3)) ∈ after.deedsAll requests :=
    List.mem_cons_of_mem _ List.mem_cons_self
  have plain : ∀ request ∈ requests, request.loadsFont = false := by
    simp [requests, Request.loadsFont]
  have outside : ¬ (0x68 : UInt16).toNat + font.length * font.stride ≤ machine.memory.size := by
    rw [size]
    decide
  have refused : machine.answer (.loadFont 0x68 font) =
      ⟨machine, some (.outsideMemory 0x68 9 machine.memory.size)⟩ :=
    (answer_eq_fault_iff rfl).mpr ⟨.loadFont 0x68 font outside, rfl⟩
  obtain ⟨_, _, unchanged, _⟩ := glyphs_found_where_written.1 machine 0x68 font
  exact ⟨machine, after, _, machine, font, requests, rfl, rfl, built, loaded, done,
    (finds after loaded).2 requests plain _ done word 1 held number, index,
    size ▸ refused, unchanged _ _ refused⟩

end Chip8.Machine

import Chip8.Proofs.Fonts

/-!
# Changes of a memory

A memory is changed by writing data or a font.  A change that is granted gives a byte to every
address that it covers, and a font covers the rows of its glyphs and not the gaps between them.
A change that is refused gives nothing to any address.

So after any changes each address has the byte that it was given last, and the byte that it had
before if it was given none (`Memory.byteAt_afterAll`).  Nothing else about the changes can be
told from the memory: those that are refused can be left out, and those that cover no common
address can be exchanged.
-/

namespace Chip8

/-! ## Rows of glyphs -/

namespace Font

variable {font : Font} {bytes : Array UInt8} {start address : Nat} {byte : UInt8}

/-- The row that stands at an address, if the glyphs stand one stride apart from the start
on. -/
def rowAt? (font : Font) (start address : Nat) : Option UInt8 :=
  if start ≤ address then
    (font[(address - start) / font.stride]?).bind fun glyph =>
      glyph[(address - start) % font.stride]?
  else none

theorem rowAt?_eq_some_iff : font.rowAt? start address = some byte ↔
    ∃ number glyph row, font[number]? = some glyph ∧ glyph[row]? = some byte ∧
      address = start + number * font.stride + row := by
  rw [rowAt?]
  constructor
  · intro found
    split at found
    · next behind =>
        obtain ⟨glyph, among, stands⟩ := Option.bind_eq_some_iff.mp found
        have split := Nat.div_add_mod' (address - start) font.stride
        exact ⟨_, glyph, _, among, stands, by omega⟩
    · cases found
  · rintro ⟨number, glyph, row, among, stands, rfl⟩
    -- the row lies inside its glyph, and no glyph is higher than the stride
    have inside : row < font.stride :=
      Nat.lt_of_lt_of_le (List.getElem?_eq_some_iff.mp stands).1
        (length_le_stride (List.mem_of_getElem? among))
    have offset : start + number * font.stride + row - start = number * font.stride + row := by
      omega
    have quotient : (number * font.stride + row) / font.stride = number := by
      rw [Nat.mul_comm, Nat.mul_add_div (Nat.zero_lt_of_lt inside), Nat.div_eq_of_lt inside]
      rfl
    have remainder : (number * font.stride + row) % font.stride = row := by
      rw [Nat.mul_comm, Nat.mul_add_mod, Nat.mod_eq_of_lt inside]
    rw [if_pos (by omega), offset, quotient, remainder, among]
    exact stands

/-- Every row lies inside the extent of its font. -/
theorem bounds_of_rowAt? (found : font.rowAt? start address = some byte) :
    start ≤ address ∧ address < start + font.extent := by
  obtain ⟨number, glyph, row, among, stands, rfl⟩ := rowAt?_eq_some_iff.mp found
  have inside := (List.getElem?_eq_some_iff.mp stands).1
  have low := length_le_stride (List.mem_of_getElem? among)
  have counted : (number + 1) * font.stride ≤ font.extent :=
    Nat.mul_le_mul_right _ (List.getElem?_eq_some_iff.mp among).1
  rw [Nat.succ_mul] at counted
  omega

/-- Writing glyphs puts their rows into their places and leaves all other bytes. -/
theorem getD_place_eq (bound : address < bytes.size) :
    (font.place bytes start font.stride).getD address 0 =
      (font.rowAt? start address).getD (bytes.getD address 0) := by
  cases found : font.rowAt? start address with
  | some byte =>
      obtain ⟨number, glyph, row, among, stands, rfl⟩ := rowAt?_eq_some_iff.mp found
      have inside := (List.getElem?_eq_some_iff.mp stands).1
      rw [getD_place (fun _ => length_le_stride) among inside bound,
        List.getD_eq_getElem?_getD, stands]
      rfl
  | none =>
      refine getD_place_of_not_covers bound ?_
      rintro ⟨number, glyph, among, low, high⟩
      have inside : address - (start + number * font.stride) < glyph.length := by omega
      have found' := rowAt?_eq_some_iff.mpr ⟨number, glyph, _, among,
        List.getElem?_eq_getElem inside, (Nat.add_sub_of_le low).symm⟩
      rw [found] at found'
      cases found'

end Font

/-- The address belongs to the span. -/
def Span.Contains (span : Span) (address : Nat) : Prop :=
  span.address ≤ address ∧ address < span.address + span.length

namespace Memory

/-! ## Changes -/

/-- What can be written into a memory. -/
inductive Change where
  | write (address : Nat) (data : List UInt8)
  | writeFont (address : Nat) (font : Font)
deriving DecidableEq

namespace Change

/-- The span that a change needs. -/
def span : Change → Span
  | .write address data => ⟨address, data.length⟩
  | .writeFont address font => ⟨address, font.extent⟩

/-- The byte that a change gives to an address, if it covers the address. -/
def byte? (change : Change) (address : Nat) : Option UInt8 :=
  match change with
  | .write start data => if start ≤ address then data[address - start]? else none
  | .writeFont start font => font.rowAt? start address

/-- What a change answers if it is granted: the stride of a font, and nothing for data. -/
def stride? : Change → Option Nat
  | .write .. => none
  | .writeFont _ font => some font.stride

/-- A change covers addresses of its span only. -/
theorem contains_of_byte? {change : Change} {address : Nat} {byte : UInt8}
    (given : change.byte? address = some byte) : change.span.Contains address := by
  cases change with
  | write start data =>
      rw [byte?] at given
      split at given
      · next behind =>
          have inside := (List.getElem?_eq_some_iff.mp given).1
          simp only [Span.Contains, span]
          omega
      · cases given
  | writeFont start font => exact Font.bounds_of_rowAt? given

theorem byte?_eq_none {change : Change} {address : Nat}
    (outside : ¬ change.span.Contains address) : change.byte? address = none := by
  cases given : change.byte? address with
  | none => rfl
  | some byte => exact absurd (contains_of_byte? given) outside

/-- No address is covered by both changes. -/
def Apart (first second : Change) : Prop :=
  ∀ address, first.byte? address = none ∨ second.byte? address = none

/-- Changes whose spans have no common address are apart. -/
theorem apart_of_disjoint {first second : Change}
    (disjoint : ∀ address, ¬ (first.span.Contains address ∧ second.span.Contains address)) :
    first.Apart second := by
  intro address
  rcases Classical.not_and_iff_not_or_not.mp (disjoint address) with outside | outside
  · exact Or.inl (byte?_eq_none outside)
  · exact Or.inr (byte?_eq_none outside)

/-- The byte that the last of the changes gives to an address, if one of them covers it.
Changes that a memory of the given size refuses do not count. -/
def last? (size : Nat) (changes : List Change) (address : Nat) : Option UInt8 :=
  (changes.filter fun change => change.span.Within size).reverse.findSome? fun change =>
    change.byte? address

/-- The byte that the last of the changes gives to an address, zero if none covers it. -/
def lastByte (size : Nat) (changes : List Change) (address : Nat) : UInt8 :=
  (last? size changes address).getD 0

theorem last?_cons (size : Nat) (change : Change) (rest : List Change) (address : Nat) :
    last? size (change :: rest) address =
      (last? size rest address).or
        (if change.span.Within size then change.byte? address else none) := by
  rw [last?, List.filter_cons]
  by_cases within : change.span.Within size
  · simp only [within, decide_true, if_true, List.reverse_cons, List.findSome?_append,
      List.findSome?_singleton]
    rfl
  · simp only [within, decide_false, Bool.false_eq_true, if_false, Option.or_none]
    rfl

theorem last?_eq_none {size address : Nat} {changes : List Change}
    (uncovered : ∀ change ∈ changes, change.span.Within size → change.byte? address = none) :
    last? size changes address = none := by
  rw [last?, List.findSome?_eq_none_iff]
  intro change among
  obtain ⟨among, within⟩ := List.mem_filter.mp (List.mem_reverse.mp among)
  exact uncovered change among (of_decide_eq_true within)

end Change

/-! ## One change -/

variable {memory : Memory} {change first second : Change} {address : Nat}

/-- Try to change a memory. -/
def attempt (memory : Memory) : Change → Except Fault Memory
  | .write address data => memory.write address data
  | .writeFont address font => memory.writeFont address font

/-- What the attempt to change a memory answers. -/
def reply (memory : Memory) (change : Change) : Except Fault (Option Nat) :=
  (memory.attempt change).map fun _ => change.stride?

/-- The memory after an attempt to change it. -/
def after (memory : Memory) (change : Change) : Memory :=
  match memory.attempt change with
  | .ok after => after
  | .error _ => memory

/-- A change whose span lies inside memory gives their bytes to the addresses that it covers. -/
structure Changed (before : Memory) (change : Change) (after : Memory) : Prop where
  within : change.span.Within before.size
  size : after.size = before.size
  bytes : ∀ address, address < before.size →
    after.byteAt address = (change.byte? address).getD (before.byteAt address)

theorem exists_attempt (within : change.span.Within memory.size) :
    ∃ after, memory.attempt change = .ok after ∧ memory.Changed change after := by
  cases change with
  | write start data =>
      refine ⟨_, write_eq_ok within, within, size_overwrite _ _ _, fun address bound => ?_⟩
      rw [byteAt, getD_overwrite bound, Change.byte?, List.getD_eq_getElem?_getD]
      by_cases behind : start ≤ address
      · by_cases inside : address < start + data.length
        · have offset : address - start < data.length := by omega
          simp [behind, inside, offset]
        · have offset : data.length ≤ address - start := by omega
          simp [inside, offset, byteAt]
      · simp [behind, byteAt]
  | writeFont start font =>
      refine ⟨⟨font.place memory.bytes start font.stride⟩, ?_, within,
        Font.size_place _ _ _ _, fun address bound => Font.getD_place_eq bound⟩
      rw [attempt, writeFont, Span.check_of_within (by exact within)]
      rfl

theorem attempt_of_not_within (outside : ¬ change.span.Within memory.size) :
    memory.attempt change =
      .error (.outsideMemory change.span.address change.span.length memory.size) := by
  cases change with
  | write start data => exact write_eq_error outside
  | writeFont start font =>
      rw [attempt, writeFont, Span.check_of_not_within (by exact outside)]
      rfl

theorem changed_of_attempt {after : Memory} (granted : memory.attempt change = .ok after) :
    memory.Changed change after := by
  by_cases within : change.span.Within memory.size
  · obtain ⟨found, same, changed⟩ := exists_attempt within
    rw [granted, Except.ok.injEq] at same
    exact same ▸ changed
  · rw [attempt_of_not_within within] at granted
    cases granted

/-- A change is granted exactly if its span lies inside memory. -/
theorem exists_attempt_iff :
    (∃ after, memory.attempt change = .ok after) ↔ change.span.Within memory.size := by
  constructor
  · rintro ⟨after, granted⟩
    exact (changed_of_attempt granted).within
  · intro within
    obtain ⟨after, granted, _⟩ := exists_attempt within
    exact ⟨after, granted⟩

theorem after_of_refused {fault : Fault} (refused : memory.attempt change = .error fault) :
    memory.after change = memory := by
  rw [after, refused]

@[simp]
theorem size_after (memory : Memory) (change : Change) :
    (memory.after change).size = memory.size := by
  rw [after]
  cases attempted : memory.attempt change with
  | ok after => exact (changed_of_attempt attempted).size
  | error fault => rfl

theorem byteAt_of_size_le (outside : memory.size ≤ address) : memory.byteAt address = 0 :=
  dif_neg (Nat.not_lt.mpr outside)

/-- The byte at an address after an attempt to change memory. -/
theorem byteAt_after (memory : Memory) (change : Change) (address : Nat) :
    (memory.after change).byteAt address =
      (if change.span.Within memory.size then change.byte? address else none).getD
        (memory.byteAt address) := by
  by_cases within : change.span.Within memory.size
  · obtain ⟨after, granted, changed⟩ := exists_attempt within
    rw [Memory.after, granted, if_pos within]
    by_cases bound : address < memory.size
    · exact changed.bytes address bound
    · -- no change covers an address outside memory
      have uncovered : change.byte? address = none := Change.byte?_eq_none fun inside => by
        rw [Span.Contains] at inside
        rw [Span.Within] at within
        omega
      rw [uncovered, Option.getD_none, byteAt_of_size_le (Nat.not_lt.mp bound),
        byteAt_of_size_le (changed.size ▸ Nat.not_lt.mp bound)]
  · rw [if_neg within, after_of_refused (attempt_of_not_within within)]
    rfl

theorem reply_of_within (within : change.span.Within memory.size) :
    memory.reply change = .ok change.stride? := by
  obtain ⟨after, granted, _⟩ := exists_attempt within
  rw [reply, granted]
  rfl

/-- What a change answers depends on the size of memory only. -/
theorem reply_congr {other : Memory} (sizes : other.size = memory.size) :
    other.reply change = memory.reply change := by
  by_cases within : change.span.Within memory.size
  · rw [reply_of_within within, reply_of_within (sizes ▸ within)]
  · rw [reply, reply, attempt_of_not_within within, attempt_of_not_within (sizes ▸ within),
      sizes]

/-- Changes that cover no common address can be exchanged. -/
theorem after_comm (apart : first.Apart second) :
    (memory.after first).after second = (memory.after second).after first := by
  apply eq_of_bytes
  · simp only [size_after]
  · intro address _
    simp only [byteAt_after, size_after]
    rcases apart address with uncovered | uncovered
    · simp only [uncovered, ite_self, Option.getD_none]
    · simp only [uncovered, ite_self, Option.getD_none]

/-! ## One change after another -/

/-- The memory after attempts to change it. -/
def afterAll (memory : Memory) (changes : List Change) : Memory :=
  changes.foldl after memory

/-- What the attempts answer. -/
def replies (memory : Memory) : List Change → List (Except Fault (Option Nat))
  | [] => []
  | change :: rest => memory.reply change :: (memory.after change).replies rest

@[simp]
theorem afterAll_cons (memory : Memory) (change : Change) (rest : List Change) :
    memory.afterAll (change :: rest) = (memory.after change).afterAll rest := rfl

theorem afterAll_append (memory : Memory) (earlier later : List Change) :
    memory.afterAll (earlier ++ later) = (memory.afterAll earlier).afterAll later :=
  List.foldl_append

theorem replies_append (memory : Memory) (earlier later : List Change) :
    memory.replies (earlier ++ later) =
      memory.replies earlier ++ (memory.afterAll earlier).replies later := by
  induction earlier generalizing memory with
  | nil => rfl
  | cons change rest induction =>
      rw [List.cons_append, replies, induction, replies, afterAll_cons, List.cons_append]

@[simp]
theorem size_afterAll (memory : Memory) (changes : List Change) :
    (memory.afterAll changes).size = memory.size := by
  induction changes generalizing memory with
  | nil => rfl
  | cons change rest induction => rw [afterAll_cons, induction, size_after]

/-- Every address has the byte that it was given last, or the one that it had before. -/
theorem byteAt_afterAll (memory : Memory) (changes : List Change) (address : Nat) :
    (memory.afterAll changes).byteAt address =
      (Change.last? memory.size changes address).getD (memory.byteAt address) := by
  induction changes generalizing memory with
  | nil => rfl
  | cons change rest induction =>
      rw [afterAll_cons, induction, size_after, byteAt_after, Change.last?_cons]
      cases Change.last? memory.size rest address <;> rfl

/-- A refused change can be left out: neither what becomes of memory nor what later changes
answer depends on it. -/
theorem leave_out {earlier later : List Change} {fault : Fault}
    (refused : (memory.afterAll earlier).attempt change = .error fault) :
    memory.afterAll (earlier ++ change :: later) = memory.afterAll (earlier ++ later) ∧
    memory.replies (earlier ++ change :: later) =
      memory.replies earlier ++ .error fault :: (memory.afterAll earlier).replies later ∧
    memory.replies (earlier ++ later) =
      memory.replies earlier ++ (memory.afterAll earlier).replies later := by
  refine ⟨?_, ?_, replies_append _ _ _⟩
  · rw [afterAll_append, afterAll_append, afterAll_cons, after_of_refused refused]
  · rw [replies_append, replies, after_of_refused refused, reply, refused]
    rfl

/-! ## Memories that started at zero -/

theorem byteAt_blank (size address : Nat) : (blank size).byteAt address = 0 := by
  rw [byteAt, blank, Array.getD_eq_getD_getElem?, Array.getElem?_replicate]
  split <;> rfl

/-- What can be seen of a memory of so many bytes: the bytes that the changes gave last. -/
structure Shows (memory : Memory) (size : Nat) (changes : List Change) : Prop where
  total : memory.size = size
  granted : ∀ change, (∃ after, memory.attempt change = .ok after) ↔ change.span.Within size
  bytes : ∀ address, memory.byteAt address = Change.lastByte size changes address
  read : ∀ start length, start + length ≤ size → memory.read start length =
    .ok ((List.range length).map fun offset => Change.lastByte size changes (start + offset))
  word : ∀ start word, memory.word start = .ok word ↔ start + 2 ≤ size ∧
    word.toNat = (Change.lastByte size changes start).toNat * 256 +
      (Change.lastByte size changes (start + 1)).toNat

theorem shows_afterAll (size : Nat) (changes : List Change) :
    ((blank size).afterAll changes).Shows size changes := by
  have total : ((blank size).afterAll changes).size = size := by
    rw [size_afterAll, size_blank]
  have bytes (address : Nat) : ((blank size).afterAll changes).byteAt address =
      Change.lastByte size changes address := by
    rw [byteAt_afterAll, size_blank, byteAt_blank, Change.lastByte]
  refine ⟨total, fun change => ?_, bytes, fun start length within => ?_, fun start word => ?_⟩
  · rw [exists_attempt_iff, total]
  · rw [read_eq_ok (total.symm ▸ within)]
    simp only [bytes]
  · rw [word_eq_ok_iff, ← bytes, ← bytes]
    constructor
    · intro held
      exact ⟨total ▸ held.within, held.value⟩
    · rintro ⟨within, value⟩
      exact ⟨total.symm ▸ within, value⟩

/-- After any changes of a memory that started at zero, every address has the byte that the
last granted change gave to it, and these bytes are what is read, alone and in words.  Changes
that cover no common address can be exchanged, and changes that are refused can be left out,
without any difference to memory or to what other changes answer. -/
theorem last_granted_change_wins (size : Nat) (changes : List Change) :
    ((blank size).afterAll changes).Shows size changes ∧
    (∀ first second : Change, first.Apart second →
      (((blank size).afterAll changes).after first).after second =
        (((blank size).afterAll changes).after second).after first ∧
      (((blank size).afterAll changes).after second).reply first =
        ((blank size).afterAll changes).reply first ∧
      (((blank size).afterAll changes).after first).reply second =
        ((blank size).afterAll changes).reply second) ∧
    (∀ first second : Change,
      (∀ address, ¬ (first.span.Contains address ∧ second.span.Contains address)) →
        first.Apart second) ∧
    ∀ earlier refused later fault, changes = earlier ++ refused :: later →
      ((blank size).afterAll earlier).attempt refused = .error fault →
        (blank size).afterAll changes = (blank size).afterAll (earlier ++ later) ∧
        (blank size).replies changes = (blank size).replies earlier ++
          .error fault :: ((blank size).afterAll earlier).replies later ∧
        (blank size).replies (earlier ++ later) =
          (blank size).replies earlier ++ ((blank size).afterAll earlier).replies later := by
  refine ⟨shows_afterAll size changes, fun first second apart => ?_,
    fun first second => Change.apart_of_disjoint, ?_⟩
  · exact ⟨after_comm apart, reply_congr (size_after _ _), reply_congr (size_after _ _)⟩
  · rintro earlier refused later fault rfl failed
    exact leave_out failed

/-- Data under a font with a gap, and data that does not fit.  The gap keeps its byte, and a
write into the gap can be exchanged with the font. -/
theorem gap_of_font_keeps_byte :
    let changes : List Change :=
      [.write 1 [1, 2, 3], .write 3 [5, 5], .writeFont 0 [[9], [8, 7]]]
    let memory := (blank 4).afterAll changes
    memory.read 0 4 = .ok [9, 1, 8, 7] ∧ memory.word 1 = .ok 0x0108 ∧
    (memory.after (.write 1 [4])).after (.writeFont 0 [[9], [8, 7]]) =
      (memory.after (.writeFont 0 [[9], [8, 7]])).after (.write 1 [4]) ∧
    (blank 4).attempt (.write 3 [5, 5]) = .error (.outsideMemory 3 2 4) ∧
    memory = (blank 4).afterAll [.write 1 [1, 2, 3], .writeFont 0 [[9], [8, 7]]] := by
  obtain ⟨shows, exchange, _, leaveOut⟩ := last_granted_change_wins 4
    [.write 1 [1, 2, 3], .write 3 [5, 5], .writeFont 0 [[9], [8, 7]]]
  refine ⟨?_, ?_, ?_, ?_, ?_⟩
  · exact (shows.read 0 4 (by decide)).trans (congrArg Except.ok (by decide))
  · exact (shows.word 1 0x0108).mpr (by decide)
  · refine (exchange _ _ fun address => ?_).1
    by_cases gap : address = 1
    · subst gap
      exact Or.inr (by decide)
    · refine Or.inl (Change.byte?_eq_none ?_)
      simp only [Span.Contains, Change.span, List.length_singleton]
      omega
  · exact attempt_of_not_within (by decide)
  · exact (leaveOut [.write 1 [1, 2, 3]] (.write 3 [5, 5]) [.writeFont 0 [[9], [8, 7]]] _ rfl
      (attempt_of_not_within (by decide))).1

end Memory

end Chip8

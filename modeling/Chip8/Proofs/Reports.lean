import Chip8.Machine.Snapshot
import Chip8.Proofs.Numerals
import Chip8.Proofs.Registers

/-!
# Reports and what they tell

The report of a snapshot can be read back.  A scanner takes values off the front of a text
and leaves what follows.  Fixed words are passed over, and a number is as many hexadecimal
digits as there are.  What follows a number in a report never begins with a digit, so no
number runs into the next one, however many digits it has.

The marks of the open calls tell how many there are, and the bracket behind them where they
end.  The keys that are down are listed by one digit each, so the digits tell which they are.
-/

namespace Chip8

/-! ## Scanners -/

/-- Takes a value off the front of a text and leaves what follows. -/
abbrev Scanner (α : Type) := StateT (List Char) Option α

namespace Scanner

/-- Pass over fixed words. -/
def pass (words : String) : Scanner Unit :=
  fun text => (text.dropPrefix? words.toList).map ((), ·)

/-- Take all characters up to the given one, and pass over that. -/
def upTo (stop : Char) : Scanner (List Char) :=
  fun text =>
    match text.dropWhile (· ≠ stop) with
    | [] => none
    | _ :: rest => some (text.takeWhile (· ≠ stop), rest)

/-- Whether a character is a hexadecimal digit. -/
def isDigit (c : Char) : Bool :=
  (Numeral.digit? 16 c).isSome

/-- Take a number up to a limit, as many hexadecimal digits as there are. -/
def number (limit : Nat) : Scanner Nat :=
  fun text =>
    match Numeral.read 16 limit (text.takeWhile isDigit) with
    | .ok value => some (value, text.dropWhile isDigit)
    | .error _ => none

/-- Take a byte. -/
def byte : Scanner UInt8 :=
  UInt8.ofNat <$> number 0xFF

/-- Take a word with a mark in front of it. -/
def marked : Scanner UInt16 := do
  pass "0x"
  return UInt16.ofNat (← number 0xFFFF)

/-- Take a number of items with fixed words between them. -/
def separated {α : Type} (words : String) (item : Scanner α) : Nat → Scanner (List α)
  | 0 => return []
  | 1 => ([·]) <$> item
  | count + 2 => do
      let first ← item
      pass words
      (first :: ·) <$> separated words item (count + 1)

/-- Take marked words up to the closing bracket, as many as there are marks. -/
def calls : Scanner (List UInt16) := do
  let inside ← upTo ']'
  StateT.lift ((separated ", " marked (inside.count 'x')).run' inside)

/-- Take the bytes of the registers. -/
def registers : Scanner Registers := do
  let values ← separated " " byte 16
  return Vector.ofFn fun x : Register => values.getD x 0

/-- Take digits up to the closing bracket, one for each key that is down. -/
def keys : Scanner Keypad := do
  let inside ← upTo ']'
  return Vector.ofFn fun key : Nibble =>
    (inside.filterMap (Numeral.digit? 16)).contains key.val

/-- Take the report of a snapshot. -/
def snapshot : Scanner Snapshot := do
  pass "== state ==\nPC       : "
  let nextWord ← marked
  pass " @ "
  let pc ← marked
  pass "\nI        : "
  let index ← marked
  pass "\ntimers   : DT="
  let delay ← byte
  pass " ST="
  let sound ← byte
  pass "\nstack    : ["
  let calls ← calls
  pass "\nregisters: "
  let registers ← registers
  pass "\nkeys     : ["
  let keys ← keys
  pass "\n"
  return { pc, nextWord, registers, index, delay, sound, calls, keys }

end Scanner

/-- The snapshot that a text is the report of, if there is one. -/
def Snapshot.ofReport? (text : String) : Option Snapshot :=
  (Scanner.snapshot.run' text.toList).filter fun snapshot => snapshot.report = text

namespace Scanner

/-! ## Scanning what was written -/

variable {α β : Type}

/-- The text does not begin with a digit. -/
def Stops (text : List Char) : Prop :=
  ∀ c ∈ text.head?, isDigit c = false

/-- The scanner takes the value off the text, whatever follows it without a digit. -/
def Scans (scanner : Scanner α) (text : List Char) (value : α) : Prop :=
  ∀ rest, Stops rest → scanner.run (text ++ rest) = some (value, rest)

theorem scans_pure (value : α) : Scans (pure value) [] value :=
  fun _ _ => rfl

/-- One scanner after another, if no digit of the second text can belong to the first. -/
theorem Scans.bind {scanner : Scanner α} {next : α → Scanner β} {text text' : List Char}
    {value : α} {result : β} (first : Scans scanner text value)
    (second : Scans (next value) text' result)
    (apart : ∀ rest, Stops rest → Stops (text' ++ rest)) :
    Scans (scanner >>= next) (text ++ text') result := by
  intro rest stops
  rw [StateT.run_bind, List.append_assoc, first _ (apart rest stops)]
  exact second rest stops

/-- Words are passed over, also in front of a digit. -/
theorem Scans.pass {next : Scanner β} {text : List Char} {result : β}
    (second : Scans next text result) (words : String) :
    Scans (pass words >>= fun _ => next) (words.toList ++ text) result := by
  intro rest stops
  have passed : (words.toList ++ (text ++ rest)).dropPrefix? words.toList = some (text ++ rest) :=
    List.dropPrefix?_eq_some_iff.mpr ⟨_, rfl, beq_self_eq_true _⟩
  rw [StateT.run_bind, List.append_assoc]
  show ((List.dropPrefix? _ _).map ((), ·)).bind _ = _
  rw [passed]
  exact second rest stops

theorem stops_nil : Stops [] :=
  nofun

theorem stops_words {words : String} (other : words.toList.head?.map isDigit = some false)
    (text : List Char) : Stops (words.toList ++ text) := by
  intro c among
  cases spelled : words.toList with
  | nil =>
      rw [spelled] at other
      cases other
  | cons first rest =>
      rw [spelled] at other among
      cases among
      exact Option.some.inj other

theorem takeWhile_of_stops {text : List Char} (stops : Stops text) :
    text.takeWhile isDigit = [] ∧ text.dropWhile isDigit = text := by
  cases text with
  | nil => exact ⟨rfl, rfl⟩
  | cons c rest =>
      have other := stops c rfl
      simp [other]

/-- One scanner after another, with fixed words between their texts. -/
theorem Scans.between {scanner : Scanner α} {next : α → Scanner β} {text text' : List Char}
    {value : α} {result : β} (first : Scans scanner text value)
    (second : Scans (next value) text' result) {words : String}
    (other : words.toList.head?.map isDigit = some false) :
    Scans (scanner >>= fun value => Scanner.pass words >>= fun _ => next value)
      (text ++ (words.toList ++ text')) result := by
  refine first.bind (second.pass words) fun rest _ => ?_
  rw [List.append_assoc]
  exact stops_words other _

/-- A number is taken as far as it was written. -/
theorem scans_number {n limit : Nat} (within : n ≤ limit) (width : Nat) :
    Scans (number limit) (Hex.padded width n) n := by
  intro rest stops
  have worth := Numeral.worth_padded width n
  have digits : ∀ c ∈ Hex.padded width n, isDigit c = true := worth.isSome_digit?
  obtain ⟨nothing, kept⟩ := takeWhile_of_stops stops
  have found : Numeral.read 16 limit ([] ++ Hex.padded width n) = .ok n :=
    Numeral.read_of_worth worth (Numeral.padded_ne_nil width n) within (Or.inl rfl)
  show number limit _ = _
  rw [number, List.takeWhile_append_of_pos digits, List.dropWhile_append_of_pos digits, nothing,
    kept, List.append_nil, ← List.nil_append (Hex.padded width n), found]

theorem Scans.map {scanner : Scanner α} {text : List Char} {value : α}
    (scans : Scans scanner text value) (f : α → β) : Scans (f <$> scanner) text (f value) := by
  intro rest stops
  rw [StateT.run_map, scans rest stops]
  rfl

theorem scans_byte (value : UInt8) : Scans byte (Hex.text 2 value.toNat).toList value := by
  have scans := (scans_number (Nat.le_of_lt_succ value.toNat_lt) 2).map UInt8.ofNat
  rwa [UInt8.ofNat_toNat, ← Hex.toList_text] at scans

theorem scans_marked (width : Nat) (value : UInt16) :
    Scans marked (Hex.marked width value.toNat).toList value := by
  have scans := (scans_number (Nat.le_of_lt_succ value.toNat_lt) width).map UInt16.ofNat
  rw [UInt16.ofNat_toNat, ← Hex.toList_text] at scans
  rw [Hex.marked, String.toList_append]
  exact scans.pass "0x"

theorem scans_separated {item : Scanner α} {write : α → List Char} {words : String}
    (each : ∀ value, Scans item (write value) value)
    (apart : ∀ rest, Stops (words.toList ++ rest)) (values : List α) :
    Scans (separated words item values.length) (words.toList.intercalate (values.map write))
      values := by
  induction values with
  | nil => exact scans_pure []
  | cons first later induction =>
      cases later with
      | nil =>
          rw [List.map_singleton, List.intercalate_singleton]
          exact (each first).map ([·])
      | cons second later =>
          rw [List.map_cons, List.map_cons, List.intercalate_cons_cons, List.append_assoc]
          refine (each first).bind ((induction.map (first :: ·)).pass words) fun rest _ => ?_
          rw [List.append_assoc]
          exact apart _

/-- Text is taken up to the first place where the character stands. -/
theorem scans_upTo {stop : Char} {inside : List Char} (absent : stop ∉ inside) :
    Scans (upTo stop) (inside ++ [stop]) inside := by
  intro rest _
  have other : ∀ c ∈ inside, decide (c ≠ stop) = true := by
    intro c among
    rw [decide_eq_true_eq]
    rintro rfl
    exact absent among
  rw [List.append_assoc]
  show upTo stop _ = _
  rw [upTo, List.takeWhile_append_of_pos other, List.dropWhile_append_of_pos other]
  simp

/-! ## Lists of values -/

theorem count_intercalate {c : Char} {words : List Char} {write : α → List Char} {count : Nat}
    (each : ∀ value, (write value).count c = count) (absent : c ∉ words) (values : List α) :
    (words.intercalate (values.map write)).count c = values.length * count := by
  induction values with
  | nil => simp
  | cons first later induction =>
      cases later with
      | nil => simp [each]
      | cons second later =>
          rw [List.map_cons, List.map_cons, List.intercalate_cons_cons, List.count_append,
            List.count_append, each, List.count_eq_zero.mpr absent, ← List.map_cons, induction]
          show count + 0 + (second :: later).length * count = ((second :: later).length + 1) * count
          rw [Nat.succ_mul, Nat.add_zero, Nat.add_comm]

theorem count_padded {c : Char} (other : isDigit c = false) (width n : Nat) :
    (Hex.padded width n).count c = 0 := by
  refine List.count_eq_zero.mpr fun among => ?_
  have digit := (Numeral.worth_padded width n).isSome_digit? c among
  rw [isDigit, digit] at other
  cases other

theorem count_marked {c : Char} (other : isDigit c = false) (value : UInt16) :
    (Hex.marked 3 value.toNat).toList.count c = "0x".toList.count c := by
  rw [Hex.marked, String.toList_append, List.count_append, Hex.toList_text, count_padded other]
  rfl

theorem toList_callsText (snapshot : Snapshot) :
    snapshot.callsText.toList =
      ", ".toList.intercalate
        (snapshot.calls.map fun address => (Hex.marked 3 address.toNat).toList) := by
  rw [Snapshot.callsText, String.toList_intercalate, List.map_map]
  rfl

/-- Each open call has one mark. -/
theorem count_callsText (snapshot : Snapshot) :
    snapshot.callsText.toList.count 'x' = snapshot.calls.length := by
  rw [toList_callsText, count_intercalate (count_marked rfl) (by decide)]
  exact Nat.mul_one _

theorem scans_calls (snapshot : Snapshot) :
    Scans calls (snapshot.callsText.toList ++ [']']) snapshot.calls := by
  have absent : ']' ∉ snapshot.callsText.toList := by
    rw [← List.count_eq_zero, toList_callsText, count_intercalate (count_marked rfl) (by decide)]
    exact Nat.mul_zero _
  have listed : Scans (separated ", " marked snapshot.calls.length) snapshot.callsText.toList
      snapshot.calls := by
    rw [toList_callsText]
    exact scans_separated (scans_marked 3) (stops_words rfl) snapshot.calls
  have taken := listed [] stops_nil
  rw [List.append_nil] at taken
  rw [← List.append_nil (_ ++ _)]
  refine (scans_upTo absent).bind ?_ fun rest stops => stops
  rw [count_callsText, StateT.run'_eq, taken]
  exact fun _ _ => rfl

theorem toList_registersText (snapshot : Snapshot) :
    snapshot.registersText.toList =
      " ".toList.intercalate
        (snapshot.registers.toList.map fun value => (Hex.text 2 value.toNat).toList) := by
  rw [Snapshot.registersText, String.toList_intercalate, List.map_map]
  rfl

theorem scans_registers (snapshot : Snapshot) :
    Scans registers snapshot.registersText.toList snapshot.registers := by
  have listed : Scans (separated " " byte snapshot.registers.toList.length)
      snapshot.registersText.toList snapshot.registers.toList := by
    rw [toList_registersText]
    exact scans_separated scans_byte (stops_words rfl) _
  rw [Vector.length_toList] at listed
  have restored : (Vector.ofFn fun x : Register => snapshot.registers.toList.getD x 0) =
      snapshot.registers := by
    apply Registers.eq_of_get
    rintro ⟨i, bound⟩
    rw [Registers.get_ofFn, Registers.get_mk]
    simp [bound]
  rw [← List.append_nil snapshot.registersText.toList]
  refine listed.bind ?_ fun rest stops => stops
  rw [restored]
  exact scans_pure _

/-! ## Keys -/

theorem filterMap_padded (key : Nibble) :
    (Hex.padded 1 key).filterMap (Numeral.digit? 16) = [key.val] := by
  revert key
  decide

theorem toList_keysText (snapshot : Snapshot) :
    snapshot.keysText.toList = snapshot.keysDown.flatMap fun key => Hex.padded 1 key.val := by
  rw [Snapshot.keysText, String.toList_join, List.flatMap_map]
  simp only [Hex.toList_text]

theorem scans_keys (snapshot : Snapshot) :
    Scans keys (snapshot.keysText.toList ++ [']']) snapshot.keys := by
  have absent : ']' ∉ snapshot.keysText.toList := by
    rw [toList_keysText, List.mem_flatMap]
    rintro ⟨key, _, among⟩
    exact List.count_pos_iff.mpr among |>.ne' (count_padded rfl 1 key)
  have numbers : snapshot.keysText.toList.filterMap (Numeral.digit? 16) =
      snapshot.keysDown.map (·.val) := by
    rw [toList_keysText, List.filterMap_flatMap, List.map_eq_flatMap]
    simp only [filterMap_padded]
  have restored : (Vector.ofFn fun key : Nibble =>
      (snapshot.keysDown.map (·.val)).contains key.val) = snapshot.keys := by
    apply Vector.ext
    intro i bound
    rw [Vector.getElem_ofFn, Bool.eq_iff_iff, List.contains_iff_mem]
    constructor
    · intro among
      obtain ⟨key, down, rfl⟩ := List.mem_map.mp among
      exact (List.mem_filter.mp down).2
    · intro down
      exact List.mem_map.mpr
        ⟨⟨i, bound⟩, List.mem_filter.mpr ⟨List.mem_finRange _, down⟩, rfl⟩
  rw [← List.append_nil (_ ++ _)]
  refine (scans_upTo absent).bind ?_ fun rest stops => stops
  rw [numbers, restored]
  exact scans_pure _

/-! ## Reports -/

theorem toList_report (snapshot : Snapshot) :
    snapshot.report.toList =
      "== state ==\nPC       : ".toList ++
      ((Hex.marked 4 snapshot.nextWord.toNat).toList ++ (" @ ".toList ++
      ((Hex.marked 3 snapshot.pc.toNat).toList ++ ("\nI        : ".toList ++
      ((Hex.marked 3 snapshot.index.toNat).toList ++ ("\ntimers   : DT=".toList ++
      ((Hex.text 2 snapshot.delay.toNat).toList ++ (" ST=".toList ++
      ((Hex.text 2 snapshot.sound.toNat).toList ++ ("\nstack    : [".toList ++
      ((snapshot.callsText.toList ++ [']']) ++ ("\nregisters: ".toList ++
      (snapshot.registersText.toList ++ ("\nkeys     : [".toList ++
      ((snapshot.keysText.toList ++ [']']) ++ ("\n".toList ++ [])))))))))))))))) := by
  simp [Snapshot.report, Snapshot.lines]

theorem scans_snapshot (snapshot : Snapshot) :
    Scans Scanner.snapshot snapshot.report.toList snapshot := by
  rw [toList_report]
  refine Scans.pass ?_ _
  refine (scans_marked 4 snapshot.nextWord).between ?_ rfl
  refine (scans_marked 3 snapshot.pc).between ?_ rfl
  refine (scans_marked 3 snapshot.index).between ?_ rfl
  refine (scans_byte snapshot.delay).between ?_ rfl
  refine (scans_byte snapshot.sound).between ?_ rfl
  refine (scans_calls snapshot).between ?_ rfl
  refine (scans_registers snapshot).between ?_ rfl
  exact (scans_keys snapshot).between (scans_pure snapshot) rfl

end Scanner

namespace Snapshot

/-- A text is read as a snapshot exactly if it is the report of that. -/
theorem ofReport?_eq_some_iff {text : String} {snapshot : Snapshot} :
    ofReport? text = some snapshot ↔ text = snapshot.report := by
  rw [ofReport?, Option.filter_eq_some_iff, decide_eq_true_eq]
  constructor
  · rintro ⟨_, reported⟩
    exact reported.symm
  · rintro rfl
    have scanned := Scanner.scans_snapshot snapshot [] Scanner.stops_nil
    rw [List.append_nil] at scanned
    rw [StateT.run'_eq, scanned]
    exact ⟨rfl, rfl⟩

/-- A report is read back as the snapshot that it was written for, and as no other.  So two
snapshots with the same report are the same in all their components. -/
theorem report_determines_snapshot :
    (∀ (text : String) (snapshot : Snapshot),
      ofReport? text = some snapshot ↔ text = snapshot.report) ∧
    ∀ first second : Snapshot, first.report = second.report ↔ first = second := by
  refine ⟨fun _ _ => ofReport?_eq_some_iff, fun first second => ⟨fun same => ?_, ?_⟩⟩
  · have read := ofReport?_eq_some_iff.mpr same
    rw [ofReport?_eq_some_iff.mpr rfl] at read
    exact Option.some.inj read
  · rintro rfl
    rfl

end Snapshot

end Chip8

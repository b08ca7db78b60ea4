import Chip8.Breakpoint
import Chip8.Console.Address
import Chip8.Proofs.Quotations

/-!
# Addresses and their grammar

An address is spelled with marks in front, first those with a small and then those with a
capital letter, then perhaps a plus sign, and hexadecimal digits.  Reading drops as many
marks as there are.  What is left of a text is therefore unique, and no digit is dropped with
a mark, because the letter of a mark is no digit.

Reading accepts the spelled addresses and no other text.  It finds fault with what is left
of any other text.  The message quotes the text in full and says in fixed words what is wrong,
so no two faults have the same message (`message_inj`).
-/

namespace Chip8.Address

variable {letter : Char} {text rest : List Char}

/-! ## Marks -/

/-- A number of marks, each a zero and the given letter. -/
def marks (letter : Char) (count : Nat) : List Char :=
  (List.replicate count ['0', letter]).flatten

@[simp]
theorem marks_zero (letter : Char) : marks letter 0 = [] := rfl

@[simp]
theorem marks_succ (letter : Char) (count : Nat) :
    marks letter (count + 1) = '0' :: letter :: marks letter count := rfl

theorem mem_marks {c : Char} {count : Nat} (among : c ∈ marks letter count) :
    c = '0' ∨ c = letter := by
  induction count with
  | zero => cases among
  | succ count induction =>
      rcases List.mem_cons.mp among with zero | later
      · exact Or.inl zero
      · rcases List.mem_cons.mp later with mark | later
        · exact Or.inr mark
        · exact induction later

/-- The text does not begin with a mark. -/
def Unmarked (letter : Char) (text : List Char) : Prop :=
  ¬ ['0', letter] <+: text

theorem unmarked_of_not_mem (absent : letter ∉ text) : Unmarked letter text := by
  rintro ⟨rest, rfl⟩
  simp at absent

theorem dropMarks_of_unmarked (unmarked : Unmarked letter text) : dropMarks letter text = text := by
  unfold dropMarks
  split
  · rfl
  · rfl
  · split
    · next zero c rest mark =>
        obtain ⟨rfl, rfl⟩ := mark
        exact absurd ⟨rest, rfl⟩ unmarked
    · rfl

/-- All marks are dropped, and nothing behind them. -/
theorem dropMarks_marks (unmarked : Unmarked letter rest) (count : Nat) :
    dropMarks letter (marks letter count ++ rest) = rest := by
  induction count with
  | zero => exact dropMarks_of_unmarked unmarked
  | succ count induction => simpa [dropMarks] using induction

theorem exists_marks (letter : Char) (text : List Char) :
    ∃ count, text = marks letter count ++ dropMarks letter text ∧
      Unmarked letter (dropMarks letter text) := by
  fun_induction dropMarks letter text with
  | case1 => exact ⟨0, rfl, by simp [Unmarked]⟩
  | case2 c => exact ⟨0, rfl, by simp [Unmarked]⟩
  | case3 zero c rest mark induction =>
      obtain ⟨rfl, rfl⟩ := mark
      obtain ⟨count, joined, unmarked⟩ := induction
      refine ⟨count + 1, ?_, unmarked⟩
      rw [marks_succ, List.cons_append, List.cons_append, ← joined]
  | case4 zero c rest other =>
      refine ⟨0, rfl, ?_⟩
      rintro ⟨_, same⟩
      cases same
      exact other ⟨rfl, rfl⟩

/-! ## What is left of a text -/

/-- The rest is left of the text behind all marks with a small letter and all marks with a
capital letter that follow them. -/
def Leaves (text rest : List Char) : Prop :=
  ∃ small capital, text = marks 'x' small ++ (marks 'X' capital ++ rest) ∧
    Unmarked 'x' (marks 'X' capital ++ rest) ∧ Unmarked 'X' rest

theorem leaves_iff : Leaves text rest ↔ dropMarks 'X' (dropMarks 'x' text) = rest := by
  constructor
  · rintro ⟨small, capital, rfl, before, behind⟩
    rw [dropMarks_marks before, dropMarks_marks behind]
  · rintro rfl
    obtain ⟨small, first, unmarked⟩ := exists_marks 'x' text
    obtain ⟨capital, second, unmarked'⟩ := exists_marks 'X' (dropMarks 'x' text)
    refine ⟨small, capital, ?_, ?_, unmarked'⟩
    · rw [← second]
      exact first
    · rw [← second]
      exact unmarked

/-! ## Spelled addresses -/

/-- The text is marks of both kinds, perhaps a plus sign, and hexadecimal digits that are worth
the value. -/
def Spells (text : List Char) (value : Nat) : Prop :=
  ∃ small capital sign digits,
    text = marks 'x' small ++ (marks 'X' capital ++ (sign ++ digits)) ∧
      (sign = [] ∨ sign = ['+']) ∧ digits ≠ [] ∧ Numeral.Worth 16 digits value

theorem not_mem_of_worth {digits : List Char} {value : Nat} (worth : Numeral.Worth 16 digits value)
    (strange : Numeral.digit? 16 letter = none) : letter ∉ digits := by
  intro among
  have found := worth.isSome_digit? letter among
  rw [strange] at found
  cases found

/-- What is left of a spelled address is its sign and its digits. -/
theorem leaves_spelled {small capital : Nat} {sign digits : List Char} {value : Nat}
    (signed : sign = [] ∨ sign = ['+']) (worth : Numeral.Worth 16 digits value) :
    Leaves (marks 'x' small ++ (marks 'X' capital ++ (sign ++ digits))) (sign ++ digits) := by
  have bare : ∀ letter, letter ≠ '+' → letter ∉ sign := by
    rintro letter other among
    rcases signed with rfl | rfl
    · cases among
    · exact other (List.mem_singleton.mp among)
  refine ⟨small, capital, rfl, unmarked_of_not_mem ?_, unmarked_of_not_mem ?_⟩
  · simp only [List.mem_append, not_or]
    refine ⟨fun among => ?_, bare 'x' (by decide), not_mem_of_worth worth rfl⟩
    rcases mem_marks among with same | same <;> cases same
  · simp only [List.mem_append, not_or]
    exact ⟨bare 'X' (by decide), not_mem_of_worth worth rfl⟩

variable {source : String} {address : UInt16}

theorem read_eq_ok_iff_of_leaves (leaves : Leaves source.toList rest) :
    read source = .ok address ↔ Numeral.read 16 0xFFFF rest = .ok address.toNat := by
  rw [read, leaves_iff.mp leaves]
  cases found : Numeral.read 16 0xFFFF rest with
  | error cause => simp
  | ok value =>
      have within := Numeral.read_le found
      simp only [Except.ok.injEq, ← UInt16.toNat_inj, UInt16.toNat_ofNat']
      omega

theorem read_eq_error_iff_of_leaves (leaves : Leaves source.toList rest) {fault : AddressFault} :
    read source = .error fault ↔
      fault.text = source ∧ Numeral.Refused 16 0xFFFF rest fault.cause := by
  rw [read, leaves_iff.mp leaves, ← Numeral.read_eq_error_iff]
  obtain ⟨text, cause⟩ := fault
  cases Numeral.read 16 0xFFFF rest with
  | error given => simp [eq_comm]
  | ok value => simp

theorem spells_of_leaves {value : Nat} (leaves : Leaves text rest)
    (present : Numeral.unsigned rest ≠ [])
    (worth : Numeral.Worth 16 (Numeral.unsigned rest) value) :
    Spells text value := by
  obtain ⟨small, capital, rfl, _, _⟩ := leaves
  obtain ⟨sign, signed, joined⟩ := Numeral.exists_sign rest
  exact ⟨small, capital, sign, _, by rw [← joined], signed, present, worth⟩

theorem read_eq_ok_iff : read source = .ok address ↔ Spells source.toList address.toNat := by
  constructor
  · intro success
    have leaves : Leaves source.toList _ := leaves_iff.mpr rfl
    have found := (read_eq_ok_iff_of_leaves leaves).mp success
    obtain ⟨present, worth, _⟩ := Numeral.read_eq_ok_iff.mp found
    exact spells_of_leaves leaves present worth
  · rintro ⟨small, capital, sign, digits, spelled, signed, present, worth⟩
    have leaves : Leaves source.toList (sign ++ digits) := spelled ▸ leaves_spelled signed worth
    have within : address.toNat ≤ 0xFFFF := Nat.le_of_lt_succ address.toNat_lt
    exact (read_eq_ok_iff_of_leaves leaves).mpr
      (Numeral.read_of_worth worth present within signed)

/-- Digits of either case are read bare, behind a mark, and behind zeros that follow it. -/
theorem read_marked {mark : String} {digits : List Char} (known : mark ∈ ["", "0x", "0X"])
    (worth : Numeral.Worth 16 digits address.toNat) (present : digits ≠ []) (zeros : Nat) :
    read (mark ++ String.ofList (List.replicate zeros '0' ++ digits)) = .ok address := by
  have padded := worth.zeros (by decide) zeros
  have filled : List.replicate zeros '0' ++ digits ≠ [] :=
    List.append_ne_nil_of_right_ne_nil _ present
  rw [read_eq_ok_iff, String.toList_append, String.toList_ofList]
  simp only [List.mem_cons, List.not_mem_nil, or_false] at known
  rcases known with rfl | rfl | rfl
  · exact ⟨0, 0, [], _, rfl, Or.inl rfl, filled, padded⟩
  · exact ⟨1, 0, [], _, rfl, Or.inl rfl, filled, padded⟩
  · exact ⟨0, 1, [], _, rfl, Or.inl rfl, filled, padded⟩

theorem read_markedSmall (address : UInt16) : read (Hex.markedSmall address.toNat) = .ok address :=
  read_marked (by simp) (Numeral.worth_small _) (Numeral.small_ne_nil _) 0

/-! ## Messages -/

/-- Each cause has words of its own. -/
theorem cause_message_inj {cause other : Numeral.Fault} (same : cause.message = other.message) :
    cause = other := by
  cases cause <;> cases other <;> simp [Numeral.Fault.message] at same ⊢

theorem message_eq (source : String) (cause : Numeral.Fault) :
    AddressFault.message ⟨source, cause⟩ =
      "bad address " ++ Text.quoted source ++ (": " ++ cause.message) := by
  simp only [AddressFault.message, String.append_assoc]

/-- A message tells the text that it quotes and what is wrong with it. -/
theorem message_inj {fault other : AddressFault} (same : fault.message = other.message) :
    fault = other := by
  obtain ⟨source, cause⟩ := fault
  obtain ⟨source', cause'⟩ := other
  rw [message_eq, message_eq, String.append_assoc, String.append_assoc,
    String.append_right_inj] at same
  obtain ⟨rfl, words⟩ := (Text.quotes_quoted source).inj (Text.quotes_quoted source') same
  rw [String.append_right_inj] at words
  rw [cause_message_inj words]

/-! ## The grammar -/

/-- Reading accepts the spelled addresses and no other text.  What is wrong with another text is
decided by what is left of it, and the message quotes the text and says so.  An address is read
back from its hexadecimal digits of either case, bare or behind a mark, and behind any number of
zeros, and so from the name of a breakpoint that has none of its own. -/
theorem addresses_read_by_grammar :
    (∀ (source : String) (address : UInt16),
      read source = .ok address ↔ Spells source.toList address.toNat) ∧
    (∀ source : String,
      (∃ fault, read source = .error fault) ↔
        ¬ ∃ address : UInt16, Spells source.toList address.toNat) ∧
    (∀ source : String, ∃ rest, Leaves source.toList rest ∧
      ∀ fault, read source = .error fault ↔
        fault.text = source ∧ Numeral.Refused 16 0xFFFF rest fault.cause) ∧
    (∀ source : String, ∃ quotation, Text.Quotes source quotation ∧
      AddressFault.message ⟨source, .empty⟩ =
        "bad address " ++ quotation ++ ": cannot parse integer from empty string" ∧
      AddressFault.message ⟨source, .invalidDigit⟩ =
        "bad address " ++ quotation ++ ": invalid digit found in string" ∧
      AddressFault.message ⟨source, .tooLarge⟩ =
        "bad address " ++ quotation ++ ": number too large to fit in target type") ∧
    (∀ c : Char, c.toNat < 0x80 →
      (Text.isVisible c = true ↔ 0x20 ≤ c.toNat ∧ c.toNat < 0x7F)) ∧
    (∀ fault other : AddressFault, fault.message = other.message → fault = other) ∧
    (∀ (address : UInt16), ∀ mark ∈ ["", "0x", "0X"],
      ∀ digits ∈ [Hex.small address.toNat, Hex.capital address.toNat], ∀ zeros : Nat,
        read (mark ++ String.ofList (List.replicate zeros '0' ++ digits)) = .ok address) ∧
    ∀ address : UInt16, ∃ suffix,
      (Breakpoint.ofAddress address none).name = "breakpoint-" ++ suffix ∧
        read suffix = .ok address := by
  refine ⟨fun _ _ => read_eq_ok_iff, fun source => ?_, fun source => ?_, fun source => ?_,
    fun _ => Text.isVisible_iff_of_lt, fun _ _ => message_inj, ?_,
    fun address => ⟨_, rfl, read_markedSmall address⟩⟩
  · simp only [← read_eq_ok_iff]
    cases read source <;> simp
  · have leaves : Leaves source.toList _ := leaves_iff.mpr rfl
    exact ⟨_, leaves, fun _ => read_eq_error_iff_of_leaves leaves⟩
  · exact ⟨_, Text.quotes_quoted source, message_eq source .empty,
      message_eq source .invalidDigit, message_eq source .tooLarge⟩
  · intro address mark known digits spelling zeros
    simp only [List.mem_cons, List.not_mem_nil, or_false] at spelling
    rcases spelling with rfl | rfl
    · exact read_marked known (Numeral.worth_small _) (Numeral.small_ne_nil _) zeros
    · exact read_marked known (Numeral.worth_capital _) (Numeral.capital_ne_nil _) zeros

/-- Capital digits are read behind a mark and two zeros.  Of a text with digits that are worth
too much and a letter that is no digit, the digits are found first.  A message about a tab and a
quotation mark quotes both with a backslash. -/
theorem capital_digits_read :
    "0X" ∈ ["", "0x", "0X"] ∧ Hex.capital 0x2A0 ∈ [Hex.small 0x2A0, Hex.capital 0x2A0] ∧
      read "0X002A0" = .ok 0x2A0 ∧
      read "0x0X+10000Z" = .error ⟨"0x0X+10000Z", .tooLarge⟩ ∧
      (∃ quotation, Text.Quotes "0x0X+10000Z" quotation ∧
        AddressFault.message ⟨"0x0X+10000Z", .tooLarge⟩ =
          "bad address " ++ quotation ++ ": number too large to fit in target type") ∧
      AddressFault.message ⟨"\t\"", .invalidDigit⟩ =
        "bad address \"\\t\\\"\": invalid digit found in string" ∧
      '~'.toNat < 0x80 ∧ Text.isVisible '~' = true := by
  obtain ⟨_, _, faults, messages, shown, _, spelled, _⟩ := addresses_read_by_grammar
  obtain ⟨rest, leaves, faults⟩ := faults "0x0X+10000Z"
  obtain ⟨quotation, quotes, _, _, said⟩ := messages "0x0X+10000Z"
  obtain rfl : "+10000Z".toList = rest := leaves_iff.mp leaves
  have large : Numeral.Worth 16 "10000".toList 0x10000 := Numeral.worth_small 0x10000
  exact ⟨by decide, by decide, spelled 0x2A0 "0X" (by decide) (Hex.capital 0x2A0) (by decide) 2,
    (faults _).mpr ⟨rfl, .tooLarge "10000".toList ['Z'] _ rfl large (by decide)⟩,
    ⟨quotation, quotes, said⟩, rfl, by decide, (shown '~' (by decide)).mpr (by decide)⟩

end Chip8.Address

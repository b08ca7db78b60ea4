import Chip8.Text.Hex
import Chip8.Text.Numeral
import Mathlib.Data.List.Forall2
import Mathlib.Data.Nat.Digits.Defs
import Mathlib.Tactic.IntervalCases

/-!
# Numerals and their values

A digit is written as one character, which may be a small or a capital letter.  A text of
digits is worth what positional notation says.  Reading goes through the text from the left
and keeps the value of what it has passed, which never falls.

So reading has three outcomes, and the text alone decides between them.  It gives the value
if all characters are digits and the value is within the limit.  It finds an invalid digit
if a character is none and the value before it is within the limit.  And it finds the value
too large if digits at the beginning of the text are worth more than the limit.

What is written in hexadecimal digits is worth the number that was written, in small and in
capital letters and behind any number of zeros.
-/

namespace Chip8.Numeral

/-! ## Digits -/

/-- The character is a digit of the base with the given value.  Letters of either case stand
for the values from ten on. -/
def IsDigit (base : Nat) (c : Char) (d : Nat) : Prop :=
  d < base ∧ d < 16 ∧ (c = Nat.digitChar d ∨ c = (Nat.digitChar d).toUpper)

theorem toNat_digitChar {d : Nat} (low : d < 16) :
    (Nat.digitChar d).toNat = if d < 10 then 48 + d else 87 + d := by
  interval_cases d <;> rfl

theorem toNat_toUpper_digitChar {d : Nat} (low : d < 16) :
    (Nat.digitChar d).toUpper.toNat = if d < 10 then 48 + d else 55 + d := by
  interval_cases d <;> rfl

theorem valueOf?_eq_some_iff {c : Char} {d : Nat} :
    valueOf? c = some d ↔
      d < 16 ∧ (c = Nat.digitChar d ∨ c = (Nat.digitChar d).toUpper) := by
  have numbers : d < 16 → ((c = Nat.digitChar d ∨ c = (Nat.digitChar d).toUpper) ↔
      (d < 10 ∧ c.toNat = 48 + d) ∨ (10 ≤ d ∧ (c.toNat = 87 + d ∨ c.toNat = 55 + d))) := by
    intro low
    rw [← Char.toNat_inj, ← Char.toNat_inj, toNat_digitChar low, toNat_toUpper_digitChar low]
    split <;> omega
  have bounds (a b : Char) : a ≤ b ↔ a.toNat ≤ b.toNat := Iff.rfl
  rw [and_congr_right numbers, valueOf?]
  simp only [bounds, Char.reduceToNat]
  split_ifs with decimal small capital
  · rw [Option.some.injEq]
    omega
  · rw [Option.some.injEq]
    omega
  · rw [Option.some.injEq]
    omega
  · simp only [false_iff]
    omega

theorem digit?_eq_some_iff {base : Nat} {c : Char} {d : Nat} :
    digit? base c = some d ↔ IsDigit base c d := by
  rw [digit?, Option.filter_eq_some_iff, valueOf?_eq_some_iff, decide_eq_true_eq, and_comm]
  rfl

theorem digit?_eq_none_iff {base : Nat} {c : Char} :
    digit? base c = none ↔ ∀ d, ¬ IsDigit base c d := by
  simp only [Option.eq_none_iff_forall_ne_some, ne_eq, digit?_eq_some_iff]

/-! ## Values -/

/-- The characters are digits of the base and worth the value in positional notation. -/
def Worth (base : Nat) (text : List Char) (value : Nat) : Prop :=
  ∃ digits, List.Forall₂ (IsDigit base) text digits ∧ Nat.ofDigits base digits.reverse = value

/-- A value after the digits that follow it. -/
def continued (base value : Nat) (digits : List Nat) : Nat :=
  digits.foldl (fun value d => value * base + d) value

variable {base limit value : Nat} {text : List Char}

@[simp]
theorem continued_nil (base value : Nat) : continued base value [] = value := rfl

@[simp]
theorem continued_cons (base value d : Nat) (digits : List Nat) :
    continued base value (d :: digits) = continued base (value * base + d) digits := rfl

theorem continued_zero (base : Nat) (digits : List Nat) :
    continued base 0 digits = Nat.ofDigits base digits.reverse := by
  rw [Nat.ofDigits_eq_foldr, List.foldr_reverse, continued]
  congr 1
  funext value d
  rw [Nat.cast_id, Nat.add_comm, Nat.mul_comm]

/-- Digits that follow never lower a value. -/
theorem le_continued {digits : List Nat} (spelled : List.Forall₂ (IsDigit base) text digits) :
    value ≤ continued base value digits := by
  induction spelled generalizing value with
  | nil => exact Nat.le_refl _
  | @cons c d rest digits first _ induction =>
      have positive : 0 < base := Nat.zero_lt_of_lt first.1
      calc
        value ≤ value * base := Nat.le_mul_of_pos_right _ positive
        _ ≤ value * base + d := Nat.le_add_right _ _
        _ ≤ continued base (value * base + d) digits := induction

/-! ## Reading from the left -/

/-- What reading a text behind a value leads to. -/
inductive Reading (base limit value : Nat) (text : List Char) : Except Fault Nat → Prop where
  | worth (digits : List Nat) (spelled : List.Forall₂ (IsDigit base) text digits)
      (within : continued base value digits ≤ limit) :
      Reading base limit value text (.ok (continued base value digits))
  | invalidDigit (before : List Char) (c : Char) (after : List Char) (digits : List Nat)
      (joined : text = before ++ c :: after)
      (spelled : List.Forall₂ (IsDigit base) before digits)
      (within : continued base value digits ≤ limit) (strange : ∀ d, ¬ IsDigit base c d) :
      Reading base limit value text (.error .invalidDigit)
  | tooLarge (before after : List Char) (digits : List Nat) (joined : text = before ++ after)
      (spelled : List.Forall₂ (IsDigit base) before digits)
      (beyond : limit < continued base value digits) :
      Reading base limit value text (.error .tooLarge)

theorem readFrom_cons {c : Char} {d : Nat} (first : IsDigit base c d) (rest : List Char) :
    readFrom base limit value (c :: rest) =
      if value * base + d ≤ limit then readFrom base limit (value * base + d) rest
      else .error .tooLarge := by
  rw [readFrom, digit?_eq_some_iff.mpr first]

/-- A digit in front of a text is read before whatever the text leads to. -/
theorem Reading.cons {c : Char} {d : Nat} {rest : List Char} {outcome : Except Fault Nat}
    (first : IsDigit base c d) (reading : Reading base limit (value * base + d) rest outcome) :
    Reading base limit value (c :: rest) outcome := by
  cases reading with
  | worth digits spelled within => exact .worth (d :: digits) (.cons first spelled) within
  | invalidDigit before c' after digits joined spelled within strange =>
      exact .invalidDigit (c :: before) c' after (d :: digits) (by rw [joined]; rfl)
        (.cons first spelled) within strange
  | tooLarge before after digits joined spelled beyond =>
      exact .tooLarge (c :: before) after (d :: digits) (by rw [joined]; rfl)
        (.cons first spelled) beyond

theorem reading_readFrom (within : value ≤ limit) :
    Reading base limit value text (readFrom base limit value text) := by
  induction text generalizing value with
  | nil => exact .worth [] .nil within
  | cons c rest induction =>
      cases found : digit? base c with
      | none =>
          rw [readFrom, found]
          exact .invalidDigit [] c rest [] rfl .nil within (digit?_eq_none_iff.mp found)
      | some d =>
          have first := digit?_eq_some_iff.mp found
          rw [readFrom_cons first]
          split
          · next small => exact (induction small).cons first
          · next large => exact .tooLarge [c] rest [d] rfl (.cons first .nil) (Nat.not_le.mp large)

/-- Digits that stay within the limit are passed. -/
theorem readFrom_append {before : List Char} {digits : List Nat}
    (spelled : List.Forall₂ (IsDigit base) before digits)
    (within : continued base value digits ≤ limit) (rest : List Char) :
    readFrom base limit value (before ++ rest) =
      readFrom base limit (continued base value digits) rest := by
  induction spelled generalizing value with
  | nil => rfl
  | cons first spelled induction =>
      have small := Nat.le_trans (le_continued spelled) within
      rw [List.cons_append, readFrom_cons first, if_pos small]
      exact induction within

/-- Digits that are worth too much are found too large, whatever follows them. -/
theorem readFrom_of_lt_continued {before : List Char} {digits : List Nat}
    (spelled : List.Forall₂ (IsDigit base) before digits) (within : value ≤ limit)
    (beyond : limit < continued base value digits) (after : List Char) :
    readFrom base limit value (before ++ after) = .error .tooLarge := by
  induction spelled generalizing value with
  | nil => exact absurd within (Nat.not_le.mpr beyond)
  | cons first spelled induction =>
      rw [List.cons_append, readFrom_cons first]
      split
      · next small => exact induction small beyond
      · rfl

/-- The text alone decides what reading leads to. -/
theorem readFrom_eq_iff (within : value ≤ limit) {outcome : Except Fault Nat} :
    readFrom base limit value text = outcome ↔ Reading base limit value text outcome := by
  constructor
  · rintro rfl
    exact reading_readFrom within
  · intro reading
    cases reading with
    | worth digits spelled small =>
        rw [← List.append_nil text, readFrom_append spelled small]
        rfl
    | invalidDigit before c after digits joined spelled small strange =>
        rw [joined, readFrom_append spelled small, readFrom, digit?_eq_none_iff.mpr strange]
    | tooLarge before after digits joined spelled beyond =>
        rw [joined, readFrom_of_lt_continued spelled within beyond]

/-! ## Signs -/

/-- A text without the plus sign in front of it, if there is one. -/
def unsigned : List Char → List Char
  | '+' :: rest => rest
  | text => text

@[simp]
theorem unsigned_cons_of_ne {c : Char} (other : c ≠ '+') (rest : List Char) :
    unsigned (c :: rest) = c :: rest := by
  unfold unsigned
  split
  · next same =>
      cases same
      exact absurd rfl other
  · rfl

theorem exists_sign (text : List Char) :
    ∃ sign, (sign = [] ∨ sign = ['+']) ∧ text = sign ++ unsigned text := by
  unfold unsigned
  split
  · exact ⟨['+'], Or.inr rfl, rfl⟩
  · exact ⟨[], Or.inl rfl, rfl⟩

theorem unsigned_eq_nil_iff : unsigned text = [] ↔ text = [] ∨ text = ['+'] := by
  unfold unsigned
  split
  · simp
  · next other =>
      constructor
      · exact Or.inl
      · rintro (nothing | plus)
        · exact nothing
        · exact absurd plus (other [])

/-- Unless nothing is left behind a sign, reading begins there. -/
theorem read_eq_readFrom (present : unsigned text ≠ []) :
    read base limit text = readFrom base limit 0 (unsigned text) := by
  unfold read
  split
  · exact absurd rfl present
  · exact absurd rfl present
  · rfl
  · next _ other =>
      cases text with
      | nil => exact absurd rfl present
      | cons c rest =>
          have bare : c ≠ '+' := by
            rintro rfl
            exact other rest rfl
          rw [unsigned_cons_of_ne bare]

theorem worth_iff : Worth base text value ↔
    ∃ digits, List.Forall₂ (IsDigit base) text digits ∧ continued base 0 digits = value := by
  simp only [Worth, continued_zero]

theorem Worth.eq_zero (worth : Worth base [] value) : value = 0 := by
  obtain ⟨digits, ⟨⟩, rfl⟩ := worth
  rfl

/-- Why a text is no numeral within the limit. -/
inductive Refused (base limit : Nat) (text : List Char) : Fault → Prop where
  | empty (nothing : text = []) : Refused base limit text .empty
  | signAlone (alone : text = ['+'] ∨ text = ['-']) : Refused base limit text .invalidDigit
  | invalidDigit (before : List Char) (c : Char) (after : List Char) (value : Nat)
      (joined : unsigned text = before ++ c :: after) (worth : Worth base before value)
      (within : value ≤ limit) (strange : ∀ d, ¬ IsDigit base c d) :
      Refused base limit text .invalidDigit
  | tooLarge (before after : List Char) (value : Nat)
      (joined : unsigned text = before ++ after) (worth : Worth base before value)
      (beyond : limit < value) : Refused base limit text .tooLarge

theorem read_eq_ok_iff :
    read base limit text = .ok value ↔
      unsigned text ≠ [] ∧ Worth base (unsigned text) value ∧ value ≤ limit := by
  by_cases nothing : unsigned text = []
  · rcases unsigned_eq_nil_iff.mp nothing with rfl | rfl <;> simp [read, nothing]
  · rw [read_eq_readFrom nothing, readFrom_eq_iff (Nat.zero_le _), worth_iff]
    constructor
    · rintro ⟨digits, spelled, within⟩
      exact ⟨nothing, ⟨digits, spelled, rfl⟩, within⟩
    · rintro ⟨_, ⟨digits, spelled, rfl⟩, within⟩
      exact .worth digits spelled within

/-- A text without digits is refused for being empty or a sign. -/
theorem Refused.of_unsigned_eq_nil {fault : Fault} (nothing : unsigned text = [])
    (refused : Refused base limit text fault) :
    (text = [] ∧ fault = .empty) ∨ (text = ['+'] ∧ fault = .invalidDigit) := by
  cases refused with
  | empty none => exact Or.inl ⟨none, rfl⟩
  | signAlone alone =>
      rcases alone with rfl | rfl
      · exact Or.inr ⟨rfl, rfl⟩
      · cases nothing
  | invalidDigit before c after value joined worth within strange =>
      rw [nothing] at joined
      simp at joined
  | tooLarge before after value joined worth beyond =>
      rw [nothing] at joined
      obtain ⟨rfl, rfl⟩ := List.append_eq_nil_iff.mp joined.symm
      rw [worth.eq_zero] at beyond
      exact absurd beyond (Nat.not_lt_zero limit)

/-- Behind a sign, a text is refused for what reading it finds there. -/
theorem refused_iff_reading {fault : Fault} (present : unsigned text ≠ []) :
    Refused base limit text fault ↔ Reading base limit 0 (unsigned text) (.error fault) := by
  constructor
  · intro refused
    cases refused with
    | empty nothing => exact absurd (unsigned_eq_nil_iff.mpr (Or.inl nothing)) present
    | signAlone alone =>
        rcases alone with rfl | rfl
        · exact absurd rfl present
        · exact .invalidDigit [] '-' [] [] rfl .nil (Nat.zero_le _) (digit?_eq_none_iff.mp rfl)
    | invalidDigit before c after value joined worth within strange =>
        obtain ⟨digits, spelled, rfl⟩ := worth_iff.mp worth
        exact .invalidDigit before c after digits joined spelled within strange
    | tooLarge before after value joined worth beyond =>
        obtain ⟨digits, spelled, rfl⟩ := worth_iff.mp worth
        exact .tooLarge before after digits joined spelled beyond
  · intro reading
    cases reading with
    | invalidDigit before c after digits joined spelled within strange =>
        exact .invalidDigit before c after _ joined (worth_iff.mpr ⟨digits, spelled, rfl⟩) within
          strange
    | tooLarge before after digits joined spelled beyond =>
        exact .tooLarge before after _ joined (worth_iff.mpr ⟨digits, spelled, rfl⟩) beyond

theorem read_eq_error_iff {fault : Fault} :
    read base limit text = .error fault ↔ Refused base limit text fault := by
  by_cases nothing : unsigned text = []
  · constructor
    · intro failed
      rcases unsigned_eq_nil_iff.mp nothing with rfl | rfl
      · cases failed
        exact .empty rfl
      · cases failed
        exact .signAlone (Or.inl rfl)
    · intro refused
      rcases refused.of_unsigned_eq_nil nothing with ⟨rfl, rfl⟩ | ⟨rfl, rfl⟩ <;> rfl
  · rw [read_eq_readFrom nothing, readFrom_eq_iff (Nat.zero_le _), refused_iff_reading nothing]

/-! ## What was written in hexadecimal -/

theorem isDigit_digitChar {d : Nat} (low : d < 16) : IsDigit 16 (Nat.digitChar d) d :=
  ⟨low, low, Or.inl rfl⟩

/-- A digit behind a text. -/
theorem Worth.snoc {c : Char} {d : Nat} (worth : Worth base text value)
    (last : IsDigit base c d) : Worth base (text ++ [c]) (value * base + d) := by
  obtain ⟨digits, spelled, rfl⟩ := worth_iff.mp worth
  refine worth_iff.mpr ⟨digits ++ [d], List.rel_append spelled (.cons last .nil), ?_⟩
  rw [continued, List.foldl_append]
  rfl

/-- Zeros in front of a text. -/
theorem Worth.zeros (worth : Worth base text value) (positive : 0 < base) (count : Nat) :
    Worth base (List.replicate count '0' ++ text) value := by
  induction count with
  | zero => exact worth
  | succ count induction =>
      obtain ⟨digits, spelled, rfl⟩ := worth_iff.mp induction
      refine worth_iff.mpr ⟨0 :: digits, .cons ⟨positive, by decide, Or.inl rfl⟩ spelled, ?_⟩
      rw [continued_cons, Nat.zero_mul]

theorem worth_small (n : Nat) : Worth 16 (Hex.small n) n := by
  induction n using Nat.strong_induction_on with
  | _ n induction =>
      rw [Hex.small]
      by_cases low : n < 16
      · rw [Nat.toDigits_of_lt_base low]
        exact ⟨[n], .cons (isDigit_digitChar low) .nil, by simp⟩
      · have shorter : n / 16 < n := by omega
        rw [Nat.toDigits_of_base_le (by decide) (Nat.not_lt.mp low)]
        have worth :=
          (induction (n / 16) shorter).snoc (isDigit_digitChar (Nat.mod_lt n (by decide)))
        rwa [Nat.div_add_mod' n 16] at worth

theorem IsDigit.toUpper {c : Char} {d : Nat} (digit : IsDigit base c d) :
    IsDigit base c.toUpper d := by
  obtain ⟨below, low, rfl | rfl⟩ := digit
  · exact ⟨below, low, Or.inr rfl⟩
  · refine ⟨below, low, Or.inr ?_⟩
    interval_cases d <;> rfl

theorem Worth.capital (worth : Worth base text value) :
    Worth base (text.map Char.toUpper) value := by
  obtain ⟨digits, spelled, rfl⟩ := worth
  exact ⟨digits, List.forall₂_map_left_iff.mpr (spelled.imp fun _ _ => IsDigit.toUpper), rfl⟩

theorem worth_capital (n : Nat) : Worth 16 (Hex.capital n) n :=
  (worth_small n).capital

theorem worth_padded (width n : Nat) : Worth 16 (Hex.padded width n) n :=
  (worth_capital n).zeros (by decide) _

theorem small_ne_nil (n : Nat) : Hex.small n ≠ [] :=
  Nat.toDigits_ne_nil

theorem capital_ne_nil (n : Nat) : Hex.capital n ≠ [] := by
  simp [Hex.capital, small_ne_nil]

theorem padded_ne_nil (width n : Nat) : Hex.padded width n ≠ [] :=
  List.append_ne_nil_of_right_ne_nil _ (capital_ne_nil n)

theorem Worth.isSome_digit? (worth : Worth base text value) :
    ∀ c ∈ text, (digit? base c).isSome := by
  obtain ⟨digits, spelled, rfl⟩ := worth
  induction spelled with
  | nil => nofun
  | cons first _ induction =>
      intro c among
      rcases List.mem_cons.mp among with rfl | later
      · rw [digit?_eq_some_iff.mpr first]
        rfl
      · exact induction c later

theorem unsigned_of_worth (worth : Worth base text value) : unsigned text = text := by
  cases text with
  | nil => rfl
  | cons c rest =>
      have bare : c ≠ '+' := by
        rintro rfl
        cases worth.isSome_digit? '+' List.mem_cons_self
      exact unsigned_cons_of_ne bare rest

/-- Digits that are worth no more than the limit are read, also behind a plus sign. -/
theorem read_of_worth {sign : List Char} (worth : Worth base text value) (present : text ≠ [])
    (within : value ≤ limit) (signed : sign = [] ∨ sign = ['+']) :
    read base limit (sign ++ text) = .ok value := by
  have behind : unsigned (sign ++ text) = text := by
    rcases signed with rfl | rfl
    · exact unsigned_of_worth worth
    · rfl
  rw [read_eq_ok_iff, behind]
  exact ⟨present, worth, within⟩

end Chip8.Numeral

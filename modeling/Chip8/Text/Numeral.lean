/-!
# Reading numerals

A numeral is an optional plus sign and one or more digits of a base up to
sixteen, of either case, with any number of leading zeros.  Its value must not
exceed a limit.  The text is read from the left and the first fault found is
reported: a character that is no digit, or a value that has grown past the
limit at the digit just read.  A sign alone is an invalid digit, and so is a
minus sign.
-/

namespace Chip8.Numeral

/-- Why a text is not a numeral within its limit. -/
inductive Fault where
  /-- There is no text at all. -/
  | empty
  /-- A character is not a digit of the base, or a sign stands alone. -/
  | invalidDigit
  /-- The value exceeds the limit. -/
  | tooLarge
deriving Repr, DecidableEq

/-- The fault in words. -/
def Fault.message : Fault → String
  | .empty => "cannot parse integer from empty string"
  | .invalidDigit => "invalid digit found in string"
  | .tooLarge => "number too large to fit in target type"

/-! ## Digits -/

/-- The value of a digit or a letter of either case, letters counting from ten. -/
def valueOf? (c : Char) : Option Nat :=
  if '0' ≤ c ∧ c ≤ '9' then some (c.toNat - '0'.toNat)
  else if 'a' ≤ c ∧ c ≤ 'f' then some (c.toNat - 'a'.toNat + 10)
  else if 'A' ≤ c ∧ c ≤ 'F' then some (c.toNat - 'A'.toNat + 10)
  else none

/-- The value of a digit of the base. -/
def digit? (base : Nat) (c : Char) : Option Nat :=
  (valueOf? c).filter (· < base)

/-! ## Numerals -/

/-- Continue a value with the digits that follow it. -/
def readFrom (base limit value : Nat) : List Char → Except Fault Nat
  | [] => .ok value
  | c :: rest =>
      match digit? base c with
      | none => .error .invalidDigit
      | some d =>
          if value * base + d ≤ limit then readFrom base limit (value * base + d) rest
          else .error .tooLarge

/-- Read a numeral of the base whose value is at most the limit. -/
def read (base limit : Nat) : List Char → Except Fault Nat
  | [] => .error .empty
  | ['+'] => .error .invalidDigit
  | '+' :: rest => readFrom base limit 0 rest
  | text => readFrom base limit 0 text

/-- A value read within the limit stays within it. -/
theorem readFrom_le {base limit value result : Nat} {text : List Char}
    (within : value ≤ limit) (success : readFrom base limit value text = .ok result) :
    result ≤ limit := by
  induction text generalizing value with
  | nil =>
      simp only [readFrom, Except.ok.injEq] at success
      omega
  | cons c rest induction =>
      simp only [readFrom] at success
      split at success
      · contradiction
      · split at success
        · next bounded => exact induction bounded success
        · contradiction

/-- A numeral is never worth more than its limit. -/
theorem read_le {base limit result : Nat} {text : List Char}
    (success : read base limit text = .ok result) : result ≤ limit := by
  unfold read at success
  split at success
  · contradiction
  · contradiction
  · exact readFrom_le (Nat.zero_le _) success
  · exact readFrom_le (Nat.zero_le _) success

end Chip8.Numeral

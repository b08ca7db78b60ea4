/-!
# Hexadecimal text

A number has one hexadecimal spelling without leading zeros, and zero is `0`.
Addresses, words and registers are shown with capital digits and a least width,
which leading zeros fill.  A number too long for the width keeps all its digits.
Names that the library makes up use small digits.
-/

namespace Chip8.Hex

/-! ## Digits -/

/-- The digits of a number in small letters, most significant first. -/
def small (n : Nat) : List Char :=
  Nat.toDigits 16 n

/-- The digits of a number in capital letters, most significant first. -/
def capital (n : Nat) : List Char :=
  (small n).map Char.toUpper

/-- Capital digits with leading zeros up to a least width. -/
def padded (width n : Nat) : List Char :=
  (capital n).leftpad width '0'

/-! ## Strings -/

/-- Capital digits of at least the given width. -/
def text (width n : Nat) : String :=
  String.ofList (padded width n)

/-- Capital digits of at least the given width, marked with `0x`. -/
def marked (width n : Nat) : String :=
  "0x" ++ text width n

/-- Small digits without leading zeros, marked with `0x`. -/
def markedSmall (n : Nat) : String :=
  "0x" ++ String.ofList (small n)

@[simp]
theorem toList_text (width n : Nat) : (text width n).toList = padded width n := by
  simp [text]

end Chip8.Hex

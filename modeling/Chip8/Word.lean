import Chip8.Nibble

/-!
# Words and bytes

A word has sixteen bits and takes two bytes in memory, the more significant one
first.
-/

namespace Chip8.Word

/-- The word that two bytes make, the more significant one first. -/
def ofBytes (high low : UInt8) : UInt16 :=
  UInt16.ofNat (high.toNat * 256 + low.toNat)

/-- The more significant byte. -/
def high (word : UInt16) : UInt8 :=
  UInt8.ofNat (word.toNat / 256)

/-- The less significant byte. -/
def low (word : UInt16) : UInt8 :=
  UInt8.ofNat word.toNat

/-- The two bytes of a word in the order of memory. -/
def bytes (word : UInt16) : List UInt8 :=
  [high word, low word]

theorem toNat_high (word : UInt16) : (high word).toNat = word.toNat / 256 := by
  have bound := word.toNat_lt
  simp only [high, UInt8.toNat_ofNat']
  omega

theorem toNat_low (word : UInt16) : (low word).toNat = word.toNat % 256 := by
  simp [low]

theorem toNat_ofBytes (high low : UInt8) :
    (ofBytes high low).toNat = high.toNat * 256 + low.toNat := by
  have highBound := high.toNat_lt
  have lowBound := low.toNat_lt
  simp only [ofBytes, UInt16.toNat_ofNat']
  omega

@[simp]
theorem ofBytes_high_low (word : UInt16) : ofBytes (high word) (low word) = word := by
  apply UInt16.toNat_inj.mp
  rw [toNat_ofBytes, toNat_high, toNat_low]
  omega

@[simp]
theorem high_ofBytes (first second : UInt8) : high (ofBytes first second) = first := by
  have secondBound := second.toNat_lt
  apply UInt8.toNat_inj.mp
  rw [toNat_high, toNat_ofBytes]
  omega

@[simp]
theorem low_ofBytes (first second : UInt8) : low (ofBytes first second) = second := by
  have secondBound := second.toNat_lt
  apply UInt8.toNat_inj.mp
  rw [toNat_low, toNat_ofBytes]
  omega

end Chip8.Word

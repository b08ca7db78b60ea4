import Chip8.Machine.Basic

/-!
# Random bytes from a keystream

The machine takes any source of random bytes.  The command gives it this one: the
keystream of the ChaCha cipher with twelve rounds, an all-zero nonce and a key that
is expanded from a seed of 64 bits.  Each draw takes one word of the keystream and
keeps its lowest byte.  Where no seed was asked for, one comes from the system.
-/

namespace Chip8.Keystream

/-! ## The key of a seed -/

/-- One step of the congruential generator that expands a seed. -/
def advanceSeed (state : UInt64) : UInt64 :=
  state * 6364136223846793005 + 11634580027462260723

/-- A word turned to the right by a number of bits below 32. -/
def rotateRight (word amount : UInt32) : UInt32 :=
  word >>> amount ||| word <<< (32 - amount)

/-- A word turned to the left by a number of bits below 32. -/
def rotateLeft (word amount : UInt32) : UInt32 :=
  word <<< amount ||| word >>> (32 - amount)

/-- The word that a state of the congruential generator gives out. -/
def seedWord (state : UInt64) : UInt32 :=
  rotateRight (((state >>> 18) ^^^ state) >>> 27).toUInt32 (state >>> 59).toUInt32

/-- The first words that follow from a state of the congruential generator. -/
def seedWords (state : UInt64) : Nat → List UInt32
  | 0 => []
  | count + 1 => seedWord (advanceSeed state) :: seedWords (advanceSeed state) count

theorem length_seedWords (state : UInt64) (count : Nat) :
    (seedWords state count).length = count := by
  induction count generalizing state with
  | zero => rfl
  | succ count induction => rw [seedWords, List.length_cons, induction]

/-! ## Blocks -/

/-- The sixteen words on which the rounds work. -/
abbrev Block := Vector UInt32 16

/-- Mix four words of a block. -/
def quarterRound (block : Block) (a b c d : Nibble) : Block :=
  let a1 := block.get a + block.get b
  let d1 := rotateLeft (block.get d ^^^ a1) 16
  let c1 := block.get c + d1
  let b1 := rotateLeft (block.get b ^^^ c1) 12
  let a2 := a1 + b1
  let d2 := rotateLeft (d1 ^^^ a2) 8
  let c2 := c1 + d2
  let b2 := rotateLeft (b1 ^^^ c2) 7
  (((block.setIfInBounds a a2).setIfInBounds b b2).setIfInBounds c c2).setIfInBounds d d2

/-- A round over the columns and a round over the diagonals. -/
def doubleRound (block : Block) : Block :=
  let columns :=
    quarterRound (quarterRound (quarterRound (quarterRound block
      0 4 8 12) 1 5 9 13) 2 6 10 14) 3 7 11 15
  quarterRound (quarterRound (quarterRound (quarterRound columns
    0 5 10 15) 1 6 11 12) 2 7 8 13) 3 4 9 14

/-- A block after a number of double rounds. -/
def rounds (block : Block) : Nat → Block
  | 0 => block
  | count + 1 => rounds (doubleRound block) count

/-- The four words with which every block starts. -/
def constants : Vector UInt32 4 :=
  #v[0x61707865, 0x3320646e, 0x79622d32, 0x6b206574]

/-- The constant words, the key, a block counter of 64 bits and an all-zero
nonce. -/
def initial (key : Vector UInt32 8) (counter : Nat) : Block :=
  constants ++ key ++ (#v[UInt32.ofNat counter, UInt32.ofNat (counter / 0x100000000), 0, 0])

/-- The keystream block with the given number: the words before and after twelve
rounds, added. -/
def block (key : Vector UInt32 8) (counter : Nat) : Block :=
  let start := initial key counter
  Vector.zipWith (· + ·) start (rounds start 6)

/-- The key that belongs to a seed. -/
def key (seed : UInt64) : Vector UInt32 8 :=
  ⟨(seedWords seed 8).toArray, by rw [List.size_toArray, length_seedWords]⟩

/-! ## Bytes -/

/-- The word of a seed's keystream at a position. -/
def word (seed : UInt64) (position : Nat) : UInt32 :=
  (block (key seed) (position / 16)).get (Fin.ofNat 16 position)

/-- The byte of a seed's keystream that the draw with the given number takes. -/
def byte (seed : UInt64) (position : Nat) : UInt8 :=
  (word seed position).toUInt8

/-! ## The source -/

/-- The source of keystreams.  A machine without a seed gets that of the entropy. -/
def source (entropy : UInt64) : RandomSource where
  seeded seed := ⟨byte seed, 0⟩
  unseeded := ⟨byte entropy, 0⟩

end Chip8.Keystream

/-- A machine of the given shape that draws from keystreams. -/
def Chip8.Machine.boot (config : Config) (entropy : UInt64) : Except Fault Machine :=
  build config (Keystream.source entropy)

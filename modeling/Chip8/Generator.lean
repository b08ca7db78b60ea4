/-!
# Random bytes

A program asks for random bytes one at a time.  Which bytes there are is not decided
here: a generator gives out any stream of bytes, and a random source is any way to come
by generators.  All that a source promises is that one seed always leads to one
generator.

A generator keeps its whole stream and counts what was drawn from it.  What matters to
a machine is only what is still to come (`Generator.bytes`).
-/

namespace Chip8

/-- A generator of random bytes. -/
structure Generator where
  /-- The bytes that it gives out, in their order. -/
  stream : Nat → UInt8
  /-- The number of bytes that were drawn. -/
  drawn : Nat

namespace Generator

/-- The bytes still to be drawn, in their order. -/
def bytes (generator : Generator) (position : Nat) : UInt8 :=
  generator.stream (generator.drawn + position)

/-- The byte that is drawn next. -/
def peek (generator : Generator) : UInt8 :=
  generator.bytes 0

/-- The generator after one more draw. -/
def next (generator : Generator) : Generator :=
  { generator with drawn := generator.drawn + 1 }

end Generator

/-- Where generators come from. -/
structure RandomSource where
  /-- The generator that belongs to a seed. -/
  seeded : UInt64 → Generator
  /-- A generator for which nobody chose a seed. -/
  unseeded : Generator

/-- The generator for a seed, or one without a seed. -/
def RandomSource.generator (source : RandomSource) : Option UInt64 → Generator
  | some seed => source.seeded seed
  | none => source.unseeded

end Chip8

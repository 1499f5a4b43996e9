import ChipEight.Random.Twister

/-!
# Where random bytes come from

A source hands out one byte after the other and counts them. It is either a
stream that is known in advance or a seeded generator.
-/

namespace ChipEight.Random

/-- How a source finds its next byte. -/
inductive Generator where
  /-- The bytes of a stream, by their place in it. -/
  | stream (byte : Nat → UInt8)
  /-- The bytes of a seeded generator. -/
  | twister (state : Twister)

/-- A supply of bytes of which `drawn` have been used. -/
structure Source where
  generator : Generator
  drawn : Nat := 0

namespace Source

/-- A source that repeats a list of bytes; an empty list stands for zeros. -/
def rotating (bytes : List UInt8) : Source :=
  { generator := .stream fun n => bytes.getD (n % bytes.length) 0 }

/-- The source of a seeded generator. -/
def seeded (seed : Int) : Source := { generator := .twister (.ofSeed seed) }

/-- The next byte and the source after it. -/
def draw (s : Source) : UInt8 × Source :=
  match s.generator with
  | .stream byte => (byte s.drawn, { s with drawn := s.drawn + 1 })
  | .twister t =>
      let (b, t) := t.byte
      (b, { generator := .twister t, drawn := s.drawn + 1 })

end Source

end ChipEight.Random

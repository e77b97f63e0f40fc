import SeedCleanup.Digest.Blocks

/-!
# The 160-bit digest

Each block passes through eighty rounds on five words, twenty rounds for each of four mixing
functions.
-/

namespace SeedCleanup.Digest.Sha1

/-- The five words between rounds. -/
structure State where
  a : UInt32
  b : UInt32
  c : UInt32
  d : UInt32
  e : UInt32

/-- The words before the first block. -/
def State.initial : State := ⟨0x67452301, 0xEFCDAB89, 0x98BADCFE, 0x10325476, 0xC3D2E1F0⟩

/-- Add two states word by word. -/
def State.add (s t : State) : State := ⟨s.a + t.a, s.b + t.b, s.c + t.c, s.d + t.d, s.e + t.e⟩

/-- The eighty words of a block. -/
def schedule (block : List UInt32) : List UInt32 :=
  (extend (fun r => rotateLeft (back r 3 ^^^ back r 8 ^^^ back r 14 ^^^ back r 16) 1) 64
    block.reverse).reverse

/-- The mixing function and the constant of a round. -/
def mix (round : Nat) (s : State) : UInt32 :=
  if round < 20 then ((s.b &&& s.c) ||| (~~~s.b &&& s.d)) + 0x5A827999
  else if round < 40 then (s.b ^^^ s.c ^^^ s.d) + 0x6ED9EBA1
  else if round < 60 then ((s.b &&& s.c) ||| (s.b &&& s.d) ||| (s.c &&& s.d)) + 0x8F1BBCDC
  else (s.b ^^^ s.c ^^^ s.d) + 0xCA62C1D6

/-- One round. -/
def round (s : State) (step : UInt32 × Nat) : State :=
  ⟨rotateLeft s.a 5 + mix step.2 s + s.e + step.1, s.a, rotateLeft s.b 30, s.c, s.d⟩

/-- Take in one block. -/
def absorb (s : State) (block : List UInt32) : State :=
  s.add ((schedule block).zipIdx.foldl round s)

/-- The hexadecimal digest of a text. -/
def hexOfText (text : String) : String :=
  let s := (blocks text.toUTF8.toList).foldl absorb State.initial
  hex [s.a, s.b, s.c, s.d, s.e]

end SeedCleanup.Digest.Sha1

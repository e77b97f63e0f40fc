import SeedCleanup.Text.Chars

/-!
# Sets of characters

A set of characters is a list of closed ranges of code points, in any order and possibly
overlapping.
-/

namespace SeedCleanup.Regex

/-- Closed ranges of code points. -/
abbrev CharSet := List (Nat × Nat)

namespace CharSet

/-- The greatest code point. -/
def top : Nat := 0x10FFFF

/-- Whether a character is in a set. -/
def has (s : CharSet) (c : Char) : Bool := Text.inRanges s c.toNat

/-- The set of one character. -/
def single (c : Char) : CharSet := [(c.toNat, c.toNat)]

/-- The set of all characters from one to another. -/
def range (first last : Char) : CharSet := [(first.toNat, last.toNat)]

/-- Join neighbouring ranges of an ascending list. -/
def joinNeighbours : CharSet → CharSet
  | [] => []
  | (lo, hi) :: rest =>
    match joinNeighbours rest with
    | [] => [(lo, hi)]
    | (lo', hi') :: rest' =>
      if lo' ≤ hi + 1 then (lo, max hi hi') :: rest' else (lo, hi) :: (lo', hi') :: rest'

/-- The ranges of a set, ascending and apart. -/
def normal (s : CharSet) : CharSet :=
  joinNeighbours (s.mergeSort fun a b => a.1 < b.1 || a.1 == b.1 && b.2 ≤ a.2)

/-- The code points from `start` on that lie in none of the ranges, which are ascending. -/
def gaps (start : Nat) : CharSet → CharSet
  | [] => if start ≤ top then [(start, top)] else []
  | (lo, hi) :: rest =>
    if start < lo then (start, lo - 1) :: gaps (hi + 1) rest else gaps (hi + 1) rest

/-- All characters that are not in a set. -/
def negate (s : CharSet) : CharSet := gaps 0 s.normal

/-- The part of a range between two code points, moved. -/
def foldPart (low high : Nat) (move : Nat → Nat) (r : Nat × Nat) : CharSet :=
  let lo := max low r.1
  let hi := min high r.2
  if lo ≤ hi then [(move lo, move hi)] else []

/-- A set with the ASCII letters of the other case added. -/
def foldCase (s : CharSet) : CharSet :=
  s ++ s.flatMap (foldPart 0x61 0x7A (· - 32)) ++ s.flatMap (foldPart 0x41 0x5A (· + 32))

/-! ## Named sets -/

def digits : CharSet := range '0' '9'

def lower : CharSet := range 'a' 'z'

def upper : CharSet := range 'A' 'Z'

def letters : CharSet := upper ++ lower

def space : CharSet := range '\t' '\r' ++ single ' '

def word : CharSet := digits ++ letters ++ single '_'

/-- The set that a name between colons stands for. -/
def named? (name : String) : Option CharSet :=
  match name with
  | "alnum" => some (digits ++ letters)
  | "alpha" => some letters
  | "ascii" => some [(0, 0x7F)]
  | "blank" => some (single '\t' ++ single ' ')
  | "cntrl" => some [(0, 0x1F), (0x7F, 0x7F)]
  | "digit" => some digits
  | "graph" => some (range '!' '~')
  | "lower" => some lower
  | "print" => some (range ' ' '~')
  | "punct" => some (range '!' '/' ++ range ':' '@' ++ [(0x5B, 0x60), (0x7B, 0x7E)])
  | "space" => some space
  | "upper" => some upper
  | "word" => some word
  | "xdigit" => some (digits ++ range 'A' 'F' ++ range 'a' 'f')
  | _ => none

end CharSet

end SeedCleanup.Regex

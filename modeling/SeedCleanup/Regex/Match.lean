import SeedCleanup.Regex.Basic

/-!
# Matching

An expression is run on all places of a text at once. Each place is marked or not; running an
expression takes the marked places to those at which a match from one of them ends.
-/

namespace SeedCleanup.Regex

/-- A place of a text: the characters before and after it. -/
abbrev Place := Option Char × Option Char

/-- The places of a text behind a character, in order. -/
def placesBehind (before : Option Char) : List Char → List Place
  | [] => [(before, none)]
  | c :: rest => (before, some c) :: placesBehind (some c) rest

/-- Whether a word character stands on one side of a place. -/
def isWord (c : Option Char) : Bool := c.any CharSet.word.has

/-- Whether an assertion holds at a place. -/
def Assertion.holds (a : Assertion) (p : Place) : Bool :=
  let before := isWord p.1
  let after := isWord p.2
  match a with
  | .textStart => p.1.isNone
  | .textEnd => p.2.isNone
  | .lineStart => p.1.isNone || p.1 == some '\n'
  | .lineEnd => p.2.isNone || p.2 == some '\n'
  | .anyLineStart => p.1.isNone || p.1 == some '\n' || (p.1 == some '\r' && p.2 != some '\n')
  | .anyLineEnd => p.2.isNone || p.2 == some '\r' || (p.2 == some '\n' && p.1 != some '\r')
  | .wordBoundary => before != after
  | .noWordBoundary => before == after
  | .wordStart => !before && after
  | .wordEnd => before && !after
  | .wordStartHalf => !before
  | .wordEndHalf => !after

/-- Marks for the places of a text. -/
abbrev Marks := List Bool

namespace Marks

/-- Whether a place is marked. -/
def isAny (m : Marks) : Bool := m.any id

/-- The places that are marked in either. -/
def union (m n : Marks) : Marks := List.zipWith (· || ·) m n

/-- Every marked place moved over a character that satisfies a test. -/
def advance (p : Char → Bool) (text : List Char) (m : Marks) : Marks :=
  false :: List.zipWith (fun c marked => marked && p c) text m

/-- The marked places at which an assertion holds. -/
def keep (a : Assertion) (text : List Char) (m : Marks) : Marks :=
  List.zipWith (fun p marked => marked && a.holds p) (placesBehind none text) m

/-- Run exactly some number of times; without marks there is nothing to run. -/
def times (run : Marks → Marks) : Nat → Marks → Marks
  | 0, m => m
  | n + 1, m => if m.isAny then times run n (run m) else m

/-- Run at most some number of times and gather all places that are reached. -/
def upTo (run : Marks → Marks) : Nat → Marks → Marks
  | 0, m => m
  | n + 1, m =>
    let next := m.union (run m)
    if next == m then m else upTo run n next

end Marks

namespace Expr

mutual

/-- The places at which a match that starts at a marked place ends. -/
def run (text : List Char) : Expr → Marks → Marks
  | empty, m => m
  | char c, m => m.advance (· == c) text
  | set s, m => m.advance s.has text
  | assertion a, m => m.keep a text
  | capture e, m => run text e m
  | concat es, m => runAll text es m
  | alternate es, m => runAny text es m
  | repeated e min max, m =>
    let start := Marks.times (run text e) min m
    -- each round reaches a new place or is the last
    let rounds := match max with
      | none => text.length + 1
      | some max => max - min
    Marks.upTo (run text e) rounds start

/-- Run one expression after the other. -/
def runAll (text : List Char) : List Expr → Marks → Marks
  | [], m => m
  | e :: rest, m => runAll text rest (run text e m)

/-- Run every expression on the same marks. -/
def runAny (text : List Char) : List Expr → Marks → Marks
  | [], m => m.map fun _ => false
  | e :: rest, m => (run text e m).union (runAny text rest m)

end

/-- Whether some part of a text matches an expression. -/
def matchesIn (e : Expr) (text : String) : Bool :=
  let text := text.toList
  (e.run text (List.replicate (text.length + 1) true)).isAny

end Expr

end SeedCleanup.Regex

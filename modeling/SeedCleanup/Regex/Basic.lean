import SeedCleanup.Regex.CharSet

/-!
# Regular expressions

The form of an expression after it was read: sets of characters, assertions about a place, and the
ways to combine them.
-/

namespace SeedCleanup.Regex

/-- What an assertion says about a place in a text. -/
inductive Assertion where
  | textStart
  | textEnd
  | lineStart
  | lineEnd
  /-- Lines end at a line feed, a carriage return, or both in this order. -/
  | anyLineStart
  | anyLineEnd
  | wordBoundary
  | noWordBoundary
  | wordStart
  | wordEnd
  /-- No word character stands before the place. -/
  | wordStartHalf
  /-- No word character stands after the place. -/
  | wordEndHalf
deriving DecidableEq, Inhabited

/-- A regular expression. -/
inductive Expr where
  | empty
  | char (c : Char)
  | set (s : CharSet)
  | assertion (a : Assertion)
  /-- At least `min` and at most `max` times. -/
  | repeated (e : Expr) (min : Nat) (max : Option Nat)
  | capture (e : Expr)
  | concat (es : List Expr)
  | alternate (es : List Expr)
deriving Inhabited

namespace Expr

/-- A concatenation; one of a single expression is that expression. -/
def ofConcat : List Expr → Expr
  | [] => empty
  | [e] => e
  | es => concat es

/-- An alternation; one of a single expression is that expression. -/
def ofAlternates : List Expr → Expr
  | [e] => e
  | es => alternate es

/-- A repetition; never is nothing, and once is the expression itself. -/
def ofRepeated (e : Expr) (min : Nat) (max : Option Nat) : Expr :=
  if max = some 0 then empty
  else if min = 1 ∧ max = some 1 then e
  else repeated e min max

mutual

/-- How deep an expression nests. -/
def depth : Expr → Nat
  | repeated e _ _ => depth e + 1
  | capture e => depth e + 1
  | concat es => depthOfAll es + 1
  | alternate es => depthOfAll es + 1
  | _ => 0

/-- The greatest depth of an expression of a list. -/
def depthOfAll : List Expr → Nat
  | [] => 0
  | e :: rest => max (depth e) (depthOfAll rest)

end

mutual

/-- Whether an expression matches the empty text somewhere. -/
def matchesEmpty : Expr → Bool
  | empty => true
  | char _ => false
  | set _ => false
  | assertion _ => true
  | repeated e min _ => min == 0 || matchesEmpty e
  | capture e => matchesEmpty e
  | concat es => allMatchEmpty es
  | alternate es => anyMatchesEmpty es

/-- Whether all expressions of a list match the empty text. -/
def allMatchEmpty : List Expr → Bool
  | [] => true
  | e :: rest => matchesEmpty e && allMatchEmpty rest

/-- Whether an expression of a list matches the empty text. -/
def anyMatchesEmpty : List Expr → Bool
  | [] => false
  | e :: rest => matchesEmpty e || anyMatchesEmpty rest

end

/-- The size of one state of the automaton of an expression. -/
def stateSize : Nat := 32

/-- The size of a branch to a state. -/
def branchSize : Nat := 4

/-- The size of a range of characters in a state. -/
def rangeSize : Nat := 8

mutual

/-- The size of the automaton of an expression. -/
def size : Expr → Nat
  | empty => stateSize
  | char _ => stateSize
  | set s => stateSize + rangeSize * s.normal.length
  | assertion _ => stateSize
  | capture e => 2 * stateSize + size e
  | concat es => sizeOfAll es
  | alternate es => 2 * stateSize + branchSize * es.length + sizeOfAll es
  | repeated e min none =>
    if min = 0 then
      if matchesEmpty e then size e + 3 * stateSize + 4 * branchSize
      else size e + stateSize + 2 * branchSize
    else size e * min + stateSize + 2 * branchSize
  | repeated e min (some max) =>
    (if min = 0 then stateSize else size e * min) +
      if min = max then 0 else stateSize + (max - min) * (size e + stateSize + 2 * branchSize)

/-- The size of the automata of all expressions of a list. -/
def sizeOfAll : List Expr → Nat
  | [] => 0
  | e :: rest => size e + sizeOfAll rest

end

end Expr

end SeedCleanup.Regex

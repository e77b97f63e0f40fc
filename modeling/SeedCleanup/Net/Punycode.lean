/-!
# Letters beyond ASCII in names of hosts

A name with other letters is written with ASCII letters alone: first the ASCII letters that it has,
then, in ascending order of the others, how far it is from one to the next. The distances are
numerals in base 36 whose digits end early, and how early adapts to the distances before.
-/

namespace SeedCleanup.Punycode

/-- The character of a digit in base 36. -/
def digit (n : Nat) : Char := if n < 26 then Char.ofNat (97 + n) else Char.ofNat (22 + n)

/-- The least value of a digit that does not end a numeral, at a place with a weight of `k`. -/
def threshold (k bias : Nat) : Nat := if k ≤ bias then 1 else if bias + 26 ≤ k then 26 else k - bias

/-- Some digit ends a numeral. -/
theorem one_le_threshold (k bias : Nat) : 1 ≤ threshold k bias := by
  unfold threshold
  split
  · exact Nat.le_refl 1
  · split <;> omega

/-- The digits of a distance. -/
def digits (bias k n : Nat) : List Char :=
  let t := threshold k bias
  if n < t then [digit n]
  else digit (t + (n - t) % (36 - t)) :: digits bias (k + 36) ((n - t) / (36 - t))
termination_by n
decreasing_by
  have h := one_le_threshold k bias
  exact Nat.lt_of_le_of_lt (Nat.div_le_self _ _) (by omega)

/-- Divide by 35 as long as the rest is large, counting the steps by 36. -/
def scale (delta k : Nat) : Nat × Nat :=
  if 455 < delta then scale (delta / 35) (k + 36) else (delta, k)
termination_by delta
decreasing_by exact Nat.div_lt_self (by omega) (by omega)

/-- The bias after a distance, given how many letters are written. -/
def adapt (delta written : Nat) (isFirst : Bool) : Nat :=
  let start := if isFirst then delta / 700 else delta / 2
  let (delta, k) := scale (start + start / written) 0
  k + 36 * delta / (delta + 38)

/-- What is written so far, the distance since the last letter, the bias, and the count of letters
written. -/
structure Progress where
  written : List Char
  delta : Nat
  bias : Nat
  count : Nat

/-- Pass over one letter of the name in a round that writes the letters with a number. -/
def pass (basic number : Nat) (p : Progress) (c : Char) : Progress :=
  if c.toNat < number then { p with delta := p.delta + 1 }
  else if c.toNat = number then
    { written := p.written ++ digits p.bias 36 p.delta
      delta := 0
      bias := adapt p.delta (p.count + 1) (p.count = basic)
      count := p.count + 1 }
  else p

/-- One round for each number of a letter, ascending; `least` is the least number that may come. -/
def rounds (name : List Char) (basic : Nat) : List Nat → Nat → Progress → Progress
  | [], _, p => p
  | number :: rest, least, p =>
    let p := { p with delta := p.delta + (number - least) * (p.count + 1) }
    let p := name.foldl (pass basic number) p
    rounds name basic rest (number + 1) { p with delta := p.delta + 1 }

/-- A name in ASCII letters. -/
def encode (name : List Char) : List Char :=
  let plain := name.filter (·.toNat < 128)
  let numbers := ((name.filter (128 ≤ ·.toNat)).map (·.toNat)).mergeSort.eraseDups
  let start := if plain.isEmpty then [] else plain ++ ['-']
  (rounds name plain.length numbers 128 ⟨start, 0, 72, plain.length⟩).written

end SeedCleanup.Punycode

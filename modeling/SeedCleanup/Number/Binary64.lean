/-!
# Double-precision numbers

A `Binary64` is an IEEE 754 double held as its 64 bits. Order and equality are read off the bits:
without the sign bit the magnitudes of all numbers that are not NaN ascend with their bits. Every
rounding goes through `ofRatio`, which takes an exact fraction to the nearest double.
-/

namespace SeedCleanup

/-- A double-precision number: sign, eleven exponent bits and fifty-two fraction bits. -/
structure Binary64 where
  bits : UInt64
deriving DecidableEq, Inhabited

namespace Binary64

/-! ## Fields and order -/

/-- Magnitude bits of infinity; larger magnitudes are NaN. -/
def infinityMagnitude : Nat := 0x7FF0000000000000

/-- The bits below the sign. -/
def magnitude (x : Binary64) : Nat := x.bits.toNat % Nat.pow 2 63

/-- Whether the sign bit is set. -/
def isNegative (x : Binary64) : Bool := decide (Nat.pow 2 63 ≤ x.bits.toNat)

/-- Whether the bits name no number. -/
def isNaN (x : Binary64) : Bool := decide (infinityMagnitude < x.magnitude)

/-- Whether the bits name a real number. -/
def isFinite (x : Binary64) : Bool := decide (x.magnitude < infinityMagnitude)

/-- The place of a number among all numbers; both zeros have place 0. -/
def place (x : Binary64) : Int := if x.isNegative then -(x.magnitude : Int) else x.magnitude

/-- The double with the given sign and magnitude bits. -/
def ofMagnitude (negative : Bool) (magnitude : Nat) : Binary64 :=
  ⟨UInt64.ofNat (magnitude + if negative then Nat.pow 2 63 else 0)⟩

/-- Numeric equality: NaN equals nothing, and the two zeros are equal. -/
def eqv (x y : Binary64) : Bool := !x.isNaN && !y.isNaN && decide (x.place = y.place)

theorem eqv_iff {x y : Binary64} :
    x.eqv y = true ↔ x.isNaN = false ∧ y.isNaN = false ∧ x.place = y.place := by
  rw [eqv, Bool.and_eq_true, Bool.and_eq_true, Bool.not_eq_true', Bool.not_eq_true',
    decide_eq_true_iff, and_assoc]

/-- Numeric order: NaN is below nothing and above nothing. -/
def le (x y : Binary64) : Bool := !x.isNaN && !y.isNaN && decide (x.place ≤ y.place)

/-- Strict numeric order. -/
def lt (x y : Binary64) : Bool := !x.isNaN && !y.isNaN && decide (x.place < y.place)

/-- The number zero. -/
def zero : Binary64 := ofMagnitude false 0

/-- The value above all real numbers. -/
def infinity : Binary64 := ofMagnitude false infinityMagnitude

/-- A value that is no number. -/
def nan : Binary64 := ofMagnitude false (infinityMagnitude + Nat.pow 2 51)

/-- Flip the sign bit. -/
def negate (x : Binary64) : Binary64 := ofMagnitude (!x.isNegative) x.magnitude

/-- The larger of two numbers; NaN gives way to a number. -/
def max (x y : Binary64) : Binary64 :=
  if x.isNaN then y else if y.isNaN then x else if x.place < y.place then y else x

/-! ## Exact values -/

/-- A finite magnitude is `significand * 2 ^ exponent`. -/
def significand (x : Binary64) : Nat :=
  let fraction := x.magnitude % Nat.pow 2 52
  if x.magnitude < Nat.pow 2 52 then fraction else Nat.pow 2 52 + fraction

/-- The power of two that goes with `significand`. -/
def exponent (x : Binary64) : Int :=
  if x.magnitude < Nat.pow 2 52 then -1074 else ((x.magnitude / Nat.pow 2 52 : Nat) : Int) - 1075

/-- The magnitude of a finite number as a fraction. -/
def ratio (x : Binary64) : Nat × Nat :=
  if x.exponent < 0 then (x.significand, Nat.pow 2 (-x.exponent).toNat)
  else (x.significand * Nat.pow 2 x.exponent.toNat, 1)

/-- A fraction divided by a power of two, again as a fraction. -/
def scaleDown (num den : Nat) (q : Int) : Nat × Nat :=
  if q < 0 then (num * Nat.pow 2 (-q).toNat, den) else (num, den * Nat.pow 2 q.toNat)

/-- The quotient rounded to the nearest integer, a tie to the even one. -/
def roundDiv (num den : Nat) : Nat :=
  let whole := num / den
  let rest := 2 * (num % den)
  if rest < den then whole
  else if den < rest then whole + 1
  else if whole % 2 = 0 then whole else whole + 1

/-- The double nearest to a fraction, a tie going to the even significand; a fraction that rounds
beyond the largest double gives infinity. -/
def ofRatio (negative : Bool) (num den : Nat) : Binary64 :=
  if num = 0 then ofMagnitude negative 0
  else
    let guess := Max.max (-1074) ((num.log2 : Int) - den.log2 - 53)
    let (n, d) := scaleDown num den guess
    let q := if Nat.pow 2 53 ≤ n / d then guess + 1 else guess
    let (n, d) := scaleDown num den q
    let magnitude := (q + 1074).toNat * Nat.pow 2 52 + roundDiv n d
    ofMagnitude negative (Min.min magnitude infinityMagnitude)

/-- The double nearest to a natural number. -/
def ofNat (n : Nat) : Binary64 := ofRatio false n 1

/-- The double nearest to an integer. -/
def ofInt (n : Int) : Binary64 := ofRatio (decide (n < 0)) n.natAbs 1

/-- The double nearest to `digits * 10 ^ exponent`. Powers far outside the range of doubles are
not computed. -/
def ofDecimal (negative : Bool) (digits : Nat) (exponent : Int) : Binary64 :=
  if digits = 0 then ofMagnitude negative 0
  else if exponent > 400 then ofMagnitude negative infinityMagnitude
  else if exponent + digits.log2 < -1200 then ofMagnitude negative 0
  else if exponent < 0 then ofRatio negative digits (Nat.pow 10 (-exponent).toNat)
  else ofRatio negative (digits * Nat.pow 10 exponent.toNat) 1

/-- The product of two finite numbers, rounded. -/
def mul (x y : Binary64) : Binary64 :=
  ofRatio (x.isNegative != y.isNegative) (x.ratio.1 * y.ratio.1) (x.ratio.2 * y.ratio.2)

/-- The quotient of two finite numbers, the second not zero, rounded. -/
def div (x y : Binary64) : Binary64 :=
  ofRatio (x.isNegative != y.isNegative) (x.ratio.1 * y.ratio.2) (x.ratio.2 * y.ratio.1)

/-- A finite number cut to an integer toward zero. -/
def truncate (x : Binary64) : Int :=
  let whole := x.ratio.1 / x.ratio.2
  if x.isNegative then -(whole : Int) else whole

end Binary64

end SeedCleanup

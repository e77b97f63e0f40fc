import SeedCleanup.Text.Chars
import SeedCleanup.Json.Basic

/-!
# Numerals of a document

The grammar of numbers and the value that a numeral has. A whole number that fits sixty-four bits
is exact. Any other numeral is read as a double in two steps: a significand of at most twenty
digits is gathered, and then multiplied or divided once by a rounded power of ten, so that the
result may miss the nearest double by a little.
-/

namespace SeedCleanup.Json.Numeral

open SeedCleanup.Text

/-- The parts of a numeral. -/
structure Parts where
  negative : Bool
  whole : List Char
  fraction : Option (List Char)
  exponent : Option (Bool × List Char)

/-- Reads an exponent: its sign and its digits. -/
def exponentParts (s : List Char) : Option (Bool × List Char) :=
  let (negative, digits) := match s with
    | '+' :: rest => (false, rest)
    | '-' :: rest => (true, rest)
    | _ => (false, s)
  if digits.isEmpty || !digits.all Char.isDigit then none else some (negative, digits)

/-- Reads a sign, if there is one. -/
def sign (s : List Char) : Bool × List Char :=
  match s with
  | '-' :: rest => (true, rest)
  | _ => (false, s)

/-- Reads the whole part, which has no zero before another digit. -/
def wholePart? (s : List Char) : Option (List Char × List Char) :=
  let digits := s.takeWhile Char.isDigit
  if digits.isEmpty || (digits.head? == some '0' && decide (1 < digits.length)) then none
  else some (digits, s.dropWhile Char.isDigit)

/-- Reads a point and the digits behind it, if there is a point. -/
def fractionPart? (s : List Char) : Option (Option (List Char) × List Char) :=
  match s with
  | '.' :: rest =>
    let digits := rest.takeWhile Char.isDigit
    if digits.isEmpty then none else some (some digits, rest.dropWhile Char.isDigit)
  | _ => some (none, s)

/-- Reads an exponent mark and the exponent behind it, unless the numeral ends before them. -/
def exponentPart? (s : List Char) : Option (Option (Bool × List Char)) :=
  match s with
  | [] => some none
  | c :: rest => if c = 'e' ∨ c = 'E' then (exponentParts rest).map some else none

/-- Takes a numeral apart. -/
def parts? (s : List Char) : Option Parts := do
  let (negative, s) := sign s
  let (whole, s) ← wholePart? s
  let (fraction, s) ← fractionPart? s
  let exponent ← exponentPart? s
  some ⟨negative, whole, fraction, exponent⟩

/-- Gather digits while the significand fits sixty-four bits. The second component is what did not
fit. -/
def gather (significand : Nat) : List Char → Nat × List Char
  | [] => (significand, [])
  | c :: rest =>
    let next := significand * 10 + digitValue c
    if next < UInt64.size then gather next rest else (significand, c :: rest)

/-- Scale a double down by a power of ten too small for a double. -/
def scaleDown : Nat → Binary64 → Nat → Binary64
  | 0, x, _ => x
  | steps + 1, x, power =>
    if power ≤ 308 then x.div (Binary64.ofNat (Nat.pow 10 power))
    else scaleDown steps (x.div (Binary64.ofNat (Nat.pow 10 308))) (power - 308)

/-- A significand times a power of ten, with one rounding for the significand, one for the power and
one for their product. Nothing if the result is beyond all doubles. -/
def scale? (significand : Nat) (power : Int) : Option Binary64 :=
  let x := Binary64.ofNat significand
  if 0 ≤ power then
    if power ≤ 308 then
      let product := x.mul (Binary64.ofNat (Nat.pow 10 power.toNat))
      if product.isFinite then some product else none
    else if significand = 0 then some x else none
  -- ten steps of 308 places take every significand to zero
  else some (scaleDown 10 x (-power).toNat)

/-- The greatest exponent that is computed with. -/
def exponentLimit : Nat := 2147483647

/-- The double that a numeral with a point, an exponent or too many digits is read as. -/
def real? (p : Parts) : Option Binary64 :=
  let (significand, dropped) := gather 0 p.whole
  let fraction := p.fraction.getD []
  let (significand, unread) := gather significand fraction
  let power := (dropped.length : Int) - (fraction.length - unread.length : Nat)
  let magnitude? :=
    match p.exponent with
    | none => scale? significand power
    | some (negative, digits) =>
      let exponent := decimalValue digits
      if exponentLimit < exponent then
        if !negative && significand != 0 then none else some Binary64.zero
      else scale? significand (power + if negative then -(exponent : Int) else exponent)
  magnitude?.map fun x => if p.negative then x.negate else x

/-- The value of a numeral. Nothing for a numeral beyond all doubles; minus zero is a double. -/
def value? (p : Parts) : Option Number :=
  let whole := decimalValue p.whole
  if p.fraction.isNone && p.exponent.isNone then
    if !p.negative && decide (whole < UInt64.size) then some (.whole (UInt64.ofNat whole))
    else if p.negative && decide (0 < whole) && decide (whole ≤ Nat.pow 2 63) then
      some (.below (Int64.ofInt (-whole)))
    else (real? p).map .real
  else (real? p).map .real

end SeedCleanup.Json.Numeral

import SeedCleanup.Number.Binary64

/-!
# Shortest decimal text

The shortest decimal of a finite double is the one with the fewest digits that reads back as the
same double, and of those the nearest. For each digit count only the two decimals next to the
value can read back if any of that count does, so `shortestDigits` tries these two.
-/

namespace SeedCleanup.Binary64

/-- How many decimal digits a number has; zero has none. -/
def digitCount (n : Nat) : Nat := if n = 0 then 0 else (Nat.toDigits 10 n).length

/-- The decimal magnitude of a positive fraction: the least `k` with the fraction below `10 ^ k`. -/
def decimalMagnitude (num den : Nat) : Int :=
  if den ≤ num then digitCount (num / den)
  else 1 - (digitCount ((den + num - 1) / num - 1) : Int)

/-- The fraction times a power of ten, as a fraction. -/
def scaleTen (num den : Nat) (k : Int) : Nat × Nat :=
  if k < 0 then (num, den * Nat.pow 10 (-k).toNat) else (num * Nat.pow 10 k.toNat, den)

/-- Of the two decimals with `count` digits next to the value, the nearest that reads back. -/
def nearestOfCount (x : Binary64) (magnitude : Int) (count : Nat) : Option (Nat × Int) :=
  let power := magnitude - count
  let (n, d) := scaleTen x.ratio.1 x.ratio.2 (-power)
  let low := n / d
  let readsBack (digits : Nat) : Bool := ofDecimal x.isNegative digits power == x
  let order := if 2 * (n % d) ≤ d then [low, low + 1] else [low + 1, low]
  (order.find? readsBack).map fun digits => (digits, power)

/-- Drop zeros at the end of the digits. -/
def stripZeros (digits : Nat) (power : Int) : Nat × Int :=
  if h : digits ≠ 0 ∧ digits % 10 = 0 then stripZeros (digits / 10) (power + 1)
  else (digits, power)
termination_by digits
decreasing_by omega

/-- Digits and power of ten of the shortest decimal of a finite number. Seventeen digits always
read back. -/
def shortestDigits (x : Binary64) : Nat × Int :=
  if x.magnitude = 0 then (0, 0)
  else
    let magnitude := decimalMagnitude x.ratio.1 x.ratio.2
    match (List.range 17).findSome? fun i => nearestOfCount x magnitude (i + 1) with
    | some (digits, power) => stripZeros digits power
    | none => (x.ratio.1 / x.ratio.2, 0)

/-- Zeros before a text. -/
def zeros (n : Nat) : String := String.ofList (List.replicate n '0')

/-- The text of a finite number in a document: positional while the point stands at most five
places left of the first digit or sixteen right of it, and always with a point or an exponent. -/
def documentText (x : Binary64) : String :=
  let (digits, power) := shortestDigits x
  let sign := if x.isNegative then "-" else ""
  if digits = 0 then sign ++ "0.0"
  else
    let text := (Nat.toDigits 10 digits)
    let count := text.length
    let point : Int := count + power
    if 0 ≤ power ∧ point ≤ 16 then
      sign ++ String.ofList text ++ zeros power.toNat ++ ".0"
    else if 0 < point ∧ point ≤ 16 then
      sign ++ String.ofList (text.take point.toNat) ++ "." ++ String.ofList (text.drop point.toNat)
    else if -5 < point ∧ point ≤ 0 then
      sign ++ "0." ++ zeros (-point).toNat ++ String.ofList text
    else
      let fraction := if count = 1 then "" else "." ++ String.ofList (text.drop 1)
      sign ++ String.ofList (text.take 1) ++ fraction ++ "e" ++ toString (point - 1)

end SeedCleanup.Binary64

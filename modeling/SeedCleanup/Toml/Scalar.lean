import SeedCleanup.Json.Basic
import SeedCleanup.Time.Calendar
import SeedCleanup.Toml.Text

/-!
# Numbers and times of a configuration file

Integers of sixty-four bits in four bases, doubles, and dates with or without a time. Underscores
may stand between digits.
-/

namespace SeedCleanup.Toml

open SeedCleanup.Text

/-! ## Numbers -/

/-- Reads digits with single underscores between them. -/
def digits? (isDigit : Char → Bool) (s : List Char) : Option (List Char) :=
  let groups := splitOnChar '_' s
  if groups.all fun g => !g.isEmpty && g.all isDigit then some groups.flatten else none

/-- Takes the sign off a number. -/
def sign (s : List Char) : Bool × List Char :=
  match s with
  | '+' :: rest => (false, rest)
  | '-' :: rest => (true, rest)
  | _ => (false, s)

/-- Digits of a number in base ten have no zero before another digit. -/
def isWhole (digits : List Char) : Bool := digits.length == 1 || digits.head? != some '0'

/-- An integer of sixty-four bits as a document. -/
def integer? (n : Int) : Option Json :=
  if Int64.minValue.toInt ≤ n ∧ n ≤ Int64.maxValue.toInt then some (.ofInt n) else none

/-- Reads an integer in base ten. -/
def decimal? (s : List Char) : Option Json := do
  let (negative, s) := sign s
  let digits ← digits? Char.isDigit s
  if !isWhole digits then none
  let n : Int := decimalValue digits
  integer? (if negative then -n else n)

/-- Reads an integer in a base that is written in front of it. -/
def based? (base : Nat) (s : List Char) : Option Json := do
  let isDigit (c : Char) : Bool := (hexValue? c).any (· < base)
  let digits ← digits? isDigit s
  integer? (numeralValue base (digits.filterMap hexValue?))

/-- Reads a double that is no real number. -/
def special? (s : List Char) : Option Json :=
  let (negative, s) := sign s
  let signed (x : Binary64) : Json := .num (.real (if negative then x.negate else x))
  if s == ['i', 'n', 'f'] then some (signed Binary64.infinity)
  else if s == ['n', 'a', 'n'] then some (signed Binary64.nan)
  else none

/-- Reads an exponent. -/
def exponent? (s : List Char) : Option Int := do
  let (negative, s) := sign s
  let digits ← digits? Char.isDigit s
  let n : Int := decimalValue digits
  some (if negative then -n else n)

/-- Reads a double: the nearest to what is written. Above all doubles there is none. -/
def double? (s : List Char) : Option Json := do
  let (negative, s) := sign s
  let isMark (c : Char) : Bool := c == 'e' || c == 'E'
  let mantissa := s.takeWhile fun c => !isMark c
  let exponent ← match s.drop mantissa.length with
    | [] => some 0
    | _ :: rest => exponent? rest
  let (whole, fraction) ← match cutFirst? '.' mantissa with
    | none => if mantissa.length == s.length then none else some (mantissa, [])
    | some (whole, fraction) => (digits? Char.isDigit fraction).map (whole, ·)
  let whole ← digits? Char.isDigit whole
  if !isWhole whole then none
  let x := Binary64.ofDecimal negative (decimalValue (whole ++ fraction))
    (exponent - fraction.length)
  if x = Binary64.infinity then none else some (.num (.real x))

/-! ## Times -/

/-- Reads a number of exactly `width` digits within bounds. -/
def field? (width low high : Nat) (s : List Char) : Option (Nat × List Char) :=
  let digits := s.take width
  let n := decimalValue digits
  if digits.length == width && digits.all Char.isDigit && decide (low ≤ n) && decide (n ≤ high) then
    some (n, s.drop width)
  else none

/-- Reads a date. -/
def date? (s : List Char) : Option (List Char) := do
  let (year, s) ← field? 4 0 9999 s
  let s ← afterStart? ['-'] s
  let (month, s) ← field? 2 1 12 s
  let s ← afterStart? ['-'] s
  let (_, s) ← field? 2 1 (Date.monthLength year month) s
  some s

/-- Reads a time of day, and with it a fraction of a second. -/
def time? (s : List Char) : Option (List Char) := do
  let (_, s) ← field? 2 0 23 s
  let s ← afterStart? [':'] s
  let (_, s) ← field? 2 0 59 s
  let s ← afterStart? [':'] s
  let (_, s) ← field? 2 0 60 s
  match s with
  | '.' :: rest =>
    let (_, _) ← field? 1 0 9 rest
    some (rest.dropWhile Char.isDigit)
  | _ => some s

/-- Reads an offset, if there is one. -/
def offset? (s : List Char) : Option (List Char) :=
  match s with
  | 'Z' :: rest => some rest
  | 'z' :: rest => some rest
  | c :: rest =>
    if c = '+' ∨ c = '-' then do
      let (_, s) ← field? 2 0 23 rest
      let s ← afterStart? [':'] s
      let (_, s) ← field? 2 0 59 s
      some s
    else some s
  | [] => some []

/-- The name under which a date or a time stands in a document. -/
def timeKey : String := "$__toml_private_datetime"

/-- Reads a date, a time, or both with a letter or a blank between them. -/
def moment? (s : List Char) : Option (Json × List Char) := do
  let rest ←
    match date? s with
    | none => time? s
    | some afterDate =>
      match afterDate with
      | c :: rest =>
        if c = 'T' ∨ c = 't' then (time? rest).bind offset?
        else if c = ' ' then
          -- without a time behind it the blank does not belong to the date
          match rest with
          | a :: b :: ':' :: _ =>
            if a.isDigit && b.isDigit then (time? rest).bind offset? else some afterDate
          | _ => some afterDate
        else some afterDate
      | [] => some []
  some (.obj [(timeKey, .str (String.ofList (s.take (s.length - rest.length))))], rest)

/-! ## Scalars -/

/-- Whether a character can stand in a number or a word. -/
def isScalarChar (c : Char) : Bool :=
  c.isAlphanum || c == '_' || c == '+' || c == '-' || c == '.'

/-- Reads a word or a number that is a whole text. -/
def word? (s : List Char) : Option Json :=
  match s with
  | ['t', 'r', 'u', 'e'] => some (.bool true)
  | ['f', 'a', 'l', 's', 'e'] => some (.bool false)
  | '0' :: 'x' :: rest => based? 16 rest
  | '0' :: 'o' :: rest => based? 8 rest
  | '0' :: 'b' :: rest => based? 2 rest
  | _ => (decimal? s).or ((special? s).or (double? s))

/-- Whether a text starts like a date or a time: four digits and a dash, or two and a colon. -/
def startsMoment (s : List Char) : Bool :=
  let digits := s.takeWhile Char.isDigit
  match digits.length, s.drop digits.length with
  | 4, '-' :: _ => true
  | 2, ':' :: _ => true
  | _, _ => false

/-- Reads a number, a word, a date or a time. -/
def scalar? (s : List Char) : Option (Json × List Char) :=
  if startsMoment s then moment? s
  else
    let word := s.takeWhile isScalarChar
    (word? word).map (·, s.drop word.length)

end SeedCleanup.Toml

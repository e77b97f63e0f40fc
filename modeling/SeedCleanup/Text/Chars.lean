/-!
# Character classes and numerals

Blank characters, digits, and the numerals that are written with them. Every reader works on lists
of characters, so that its recursion follows the text.
-/

namespace SeedCleanup.Text

/-- Whether a number lies in one of the closed ranges. -/
def inRanges (ranges : List (Nat × Nat)) (n : Nat) : Bool :=
  ranges.any fun r => decide (r.1 ≤ n) && decide (n ≤ r.2)

/-! ## Blank characters -/

/-- Closed ranges of the code points with the property White_Space. -/
def blankRanges : List (Nat × Nat) :=
  [(0x09, 0x0D), (0x20, 0x20), (0x85, 0x85), (0xA0, 0xA0), (0x1680, 0x1680), (0x2000, 0x200A),
   (0x2028, 0x2029), (0x202F, 0x202F), (0x205F, 0x205F), (0x3000, 0x3000)]

/-- Whether a character is white space. -/
def isBlank (c : Char) : Bool := inRanges blankRanges c.toNat

/-- Drop the blanks at the start. -/
def trimStart (s : List Char) : List Char := s.dropWhile isBlank

/-- Drop the characters at the end that satisfy a test. -/
def dropEndWhile (p : Char → Bool) (s : List Char) : List Char := (s.reverse.dropWhile p).reverse

/-- Drop the blanks at both ends. -/
def trim (s : List Char) : List Char := dropEndWhile isBlank (trimStart s)

/-! ## Digits -/

/-- Whether a character is an ASCII letter. -/
def isLetter (c : Char) : Bool := c.isAlpha

/-- The value of a decimal digit. -/
def digitValue (c : Char) : Nat := c.toNat - '0'.toNat

/-- The value of a hexadecimal digit in either case. -/
def hexValue? (c : Char) : Option Nat :=
  if c.isDigit then some (c.toNat - '0'.toNat)
  else if 'a' ≤ c ∧ c ≤ 'f' then some (c.toNat - 'a'.toNat + 10)
  else if 'A' ≤ c ∧ c ≤ 'F' then some (c.toNat - 'A'.toNat + 10)
  else none

/-- Whether a character is a hexadecimal digit. -/
def isHex (c : Char) : Bool := (hexValue? c).isSome

/-- The number that a list of digits in some base writes, given the digits' values. -/
def numeralValue (base : Nat) (digits : List Nat) : Nat :=
  digits.foldl (fun n d => n * base + d) 0

/-- The value of decimal digits. -/
def decimalValue (s : List Char) : Nat := numeralValue 10 (s.map digitValue)

/-- The value of hexadecimal digits. -/
def hexNumber (s : List Char) : Nat := numeralValue 16 (s.filterMap hexValue?)

/-- Reads a text that is one or more decimal digits and nothing else. -/
def numeral? (s : List Char) : Option Nat :=
  if s.isEmpty || !s.all Char.isDigit then none else some (decimalValue s)

/-- The lower-case hexadecimal digit of a number below sixteen. -/
def hexDigit (n : Nat) : Char := Nat.digitChar (n % 16)

/-- The upper-case hexadecimal digit of a number below sixteen. -/
def capitalHexDigit (n : Nat) : Char := (hexDigit n).toUpper

/-- The lower-case hexadecimal numeral of a number, without leading zeros. -/
def hexText (n : Nat) : List Char := Nat.toDigits 16 n

/-- A numeral padded on the left with zeros to a width. -/
def padded (width n : Nat) : List Char :=
  let digits := Nat.toDigits 10 n
  List.replicate (width - digits.length) '0' ++ digits

/-! ## Numerals of the integer types -/

/-- Reads a numeral that fits an unsigned 64-bit integer: digits after an optional plus sign. -/
def unsigned64? (s : List Char) : Option UInt64 :=
  let digits := match s with
    | '+' :: rest => rest
    | _ => s
  match numeral? digits with
  | some n => if n < UInt64.size then some (UInt64.ofNat n) else none
  | none => none

/-- Reads a numeral that fits a signed 64-bit integer: digits after an optional sign. -/
def signed64? (s : List Char) : Option Int64 :=
  let number? := match s with
    | '+' :: rest => (numeral? rest).map Int.ofNat
    | '-' :: rest => (numeral? rest).map fun n => -(n : Int)
    | _ => (numeral? s).map Int.ofNat
  match number? with
  | some n => if Int64.minValue.toInt ≤ n ∧ n ≤ Int64.maxValue.toInt then some (Int64.ofInt n) else none
  | none => none

/-! ## Splitting -/

/-- The pieces of a text between the characters that satisfy a test; there is always a piece. -/
def splitBy (p : Char → Bool) : List Char → List (List Char)
  | [] => [[]]
  | c :: rest =>
    if p c then [] :: splitBy p rest
    else match splitBy p rest with
      | [] => [[c]]
      | piece :: pieces => (c :: piece) :: pieces

/-- The pieces of a text between occurrences of a character. -/
def splitOnChar (separator : Char) (s : List Char) : List (List Char) := splitBy (· == separator) s

/-- The text before and after the first occurrence of a character. -/
def cutFirst? (separator : Char) (s : List Char) : Option (List Char × List Char) :=
  match s.dropWhile (· != separator) with
  | [] => none
  | _ :: rest => some (s.takeWhile (· != separator), rest)

/-- The text after a fixed start. -/
def afterStart? : List Char → List Char → Option (List Char)
  | [], s => some s
  | _ :: _, [] => none
  | p :: ps, c :: s => if p = c then afterStart? ps s else none

/-- Whether a text occurs in another. -/
def occursIn (part : List Char) : List Char → Bool
  | [] => part.isEmpty
  | c :: rest => (afterStart? part (c :: rest)).isSome || occursIn part rest

end SeedCleanup.Text

import SeedCleanup.Text.Chars
import SeedCleanup.Time.Instant

/-!
# Timestamps

The written form of an instant: date, `T`, time and offset. Reading is lenient about blanks, the
width of the numbers and the case of the letters. Writing is in universal time, with the fewest of
no, three, six or nine digits of the second that are exact.
-/

namespace SeedCleanup.Timestamp

open SeedCleanup.Text

/-- The rest of a text behind an expected character. -/
def expect (c : Char) : List Char → Option (List Char)
  | [] => none
  | d :: rest => if c = d then some rest else none

/-- Reads between one and `width` digits. -/
def number (width : Nat) (s : List Char) : Option (Nat × List Char) :=
  let digits := (s.take width).takeWhile Char.isDigit
  if digits.isEmpty then none else some (decimalValue digits, s.drop digits.length)

/-- Reads a number after blanks. -/
def blankNumber (width : Nat) (s : List Char) : Option (Nat × List Char) :=
  number width (trimStart s)

/-- Reads a year: four digits at most without a sign, any number of them with one. -/
def year (s : List Char) : Option (Int × List Char) :=
  match trimStart s with
  | '-' :: rest => (number rest.length rest).map fun (n, rest) => (-(n : Int), rest)
  | '+' :: rest => (number rest.length rest).map fun (n, rest) => ((n : Int), rest)
  | s => (number 4 s).map fun (n, rest) => ((n : Int), rest)

/-- Reads a date. -/
def date (s : List Char) : Option (Date × List Char) := do
  let (year, s) ← year s
  let s ← expect '-' (trimStart s)
  let (month, s) ← blankNumber 2 s
  let s ← expect '-' (trimStart s)
  let (day, s) ← blankNumber 2 s
  let date : Date := ⟨year, month, day⟩
  if date.isValid then some (date, s) else none

/-- Reads a fraction of a second in nanoseconds; digits beyond the ninth are dropped. -/
def fraction (s : List Char) : Option (Nat × List Char) :=
  match s with
  | '.' :: rest => do
    let (_, _) ← number 1 rest
    let digits := rest.takeWhile Char.isDigit
    let kept := digits.take 9
    some (decimalValue kept * Nat.pow 10 (9 - kept.length), rest.drop digits.length)
  | _ => some (0, s)

/-- Reads a time of day as the second of the day and nanoseconds. The sixtieth second is the leap
second of its minute. -/
def time (s : List Char) : Option ((Nat × Nat) × List Char) := do
  let (hour, s) ← blankNumber 2 s
  let s ← expect ':' (trimStart s)
  let (minute, s) ← blankNumber 2 s
  let s ← expect ':' (trimStart s)
  let (second, s) ← blankNumber 2 s
  let (nano, s) ← fraction s
  if 23 < hour ∨ 59 < minute ∨ 60 < second then none
  else if second = 60 then some ((hour * 3600 + minute * 60 + 59, nano + 1000000000), s)
  else some ((hour * 3600 + minute * 60 + second, nano), s)

/-- Reads the hours and minutes of an offset, with nothing, colons or blanks between them. -/
def offsetAmount (s : List Char) : Option (Nat × List Char) := do
  match s with
  | h₁ :: h₂ :: rest =>
    match rest.dropWhile fun c => c == ':' || isBlank c with
    | m₁ :: m₂ :: rest =>
      let minutes := decimalValue [m₁, m₂]
      if [h₁, h₂, m₁, m₂].all Char.isDigit && decide (minutes < 60) then
        some (decimalValue [h₁, h₂] * 3600 + minutes * 60, rest)
      else none
    | _ => none
  | _ => none

/-- Reads an offset from universal time in seconds. -/
def offset (s : List Char) : Option (Int × List Char) :=
  if ((s.take 3).map Char.toLower) == ['u', 't', 'c'] then some (0, s.drop 3)
  else match s with
    | 'Z' :: rest => some (0, rest)
    | 'z' :: rest => some (0, rest)
    | '+' :: rest => (offsetAmount rest).map fun (n, rest) => ((n : Int), rest)
    | '-' :: rest => (offsetAmount rest).map fun (n, rest) => (-(n : Int), rest)
    | '−' :: rest => (offsetAmount rest).map fun (n, rest) => (-(n : Int), rest)
    | _ => none

/-- The separator of date and time. -/
def separator : List Char → Option (List Char)
  | 'T' :: rest => some rest
  | 't' :: rest => some rest
  | ' ' :: rest => some rest
  | _ => none

/-- Reads an instant. The offset is less than a day, and the instant lies in the calendar. -/
def parse (text : String) : Option Instant := do
  let (date, s) ← date text.toList
  let s ← separator s
  let ((second, nano), s) ← time s
  let (shift, s) ← offset (trimStart s)
  let instant : Instant := ⟨date.toDays * 86400 + second - shift, nano⟩
  if s.all isBlank && decide (shift.natAbs < 86400) && instant.inCalendar then some instant
  else none

/-- A year of four digits, with a sign if four digits do not show it. -/
def yearText (year : Int) : List Char :=
  if 0 ≤ year ∧ year ≤ 9999 then padded 4 year.toNat
  else (if year < 0 then '-' else '+') :: padded 4 year.natAbs

/-- The fraction of a second with the fewest groups of three digits. -/
def fractionText (nano : Nat) : List Char :=
  if nano = 0 then []
  else if nano % 1000000 = 0 then '.' :: padded 3 (nano / 1000000)
  else if nano % 1000 = 0 then '.' :: padded 6 (nano / 1000)
  else '.' :: padded 9 nano

/-- The written form of an instant in universal time. -/
def text (t : Instant) : String :=
  let date := Date.ofDays (t.second / 86400)
  let time := t.secondOfDay.toNat
  let (second, nano) :=
    if t.isLeap then (time % 60 + 1, t.nano - 1000000000) else (time % 60, t.nano)
  String.ofList (yearText date.year ++ ['-'] ++ padded 2 date.month ++ ['-'] ++ padded 2 date.day
    ++ ['T'] ++ padded 2 (time / 3600) ++ [':'] ++ padded 2 (time / 60 % 60) ++ [':']
    ++ padded 2 second ++ fractionText nano ++ ['Z'])

end SeedCleanup.Timestamp

import SeedCleanup.Text.Chars
import SeedCleanup.Text.Utf8

/-!
# Percent signs

Where a character cannot stand for itself, its bytes are written as percent signs with two digits.
Forms write a blank as a plus sign besides.
-/

namespace SeedCleanup.Percent

open SeedCleanup.Text

/-- A byte as a percent sign and two digits. -/
def escape (b : UInt8) : List Char :=
  ['%', capitalHexDigit (b.toNat / 16), capitalHexDigit (b.toNat % 16)]

/-- A text in which the characters that pass a test stand for themselves. -/
def encode (isPlain : Char → Bool) (s : List Char) : List Char :=
  s.flatMap fun c => if isPlain c then [c] else (utf8 [c]).flatMap escape

/-- The bytes of a text with percent signs. A percent sign without two digits stands for itself. -/
def decode : List Char → List UInt8
  | '%' :: a :: b :: rest =>
    match hexValue? a, hexValue? b with
    | some high, some low => UInt8.ofNat (high * 16 + low) :: decode rest
    | _, _ => utf8 ['%'] ++ decode (a :: b :: rest)
  | c :: rest => utf8 [c] ++ decode rest
  | [] => []

/-- Whether a character of a form stands for itself. -/
def isFormChar (c : Char) : Bool :=
  c.isAlphanum || c == '*' || c == '-' || c == '.' || c == '_' || c == ' '

/-- A text as part of a form. -/
def formText (s : String) : String :=
  String.ofList ((encode isFormChar s.toList).map fun c => if c == ' ' then '+' else c)

/-- Names and values as a form. -/
def form (pairs : List (String × String)) : String :=
  "&".intercalate (pairs.map fun p => formText p.1 ++ "=" ++ formText p.2)

/-- The text of a part of a form. -/
def formValue (s : List Char) : String :=
  String.ofList (decodeUtf8 (decode (s.map fun c => if c == '+' then ' ' else c)))

/-- The names and values of a form. Empty parts do not count, and a part without a sign for
equality is a name. -/
def formPairs (s : List Char) : List (String × String) :=
  ((splitOnChar '&' s).filter fun part => !part.isEmpty).map fun part =>
    match cutFirst? '=' part with
    | some (name, value) => (formValue name, formValue value)
    | none => (formValue part, "")

end SeedCleanup.Percent

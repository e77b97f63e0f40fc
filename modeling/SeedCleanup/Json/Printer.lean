import SeedCleanup.Text.Chars
import SeedCleanup.Number.Shortest
import SeedCleanup.Json.Basic

/-!
# Writing documents

A document is written without blanks, with the members of an object in their order. Doubles have
their shortest text.
-/

namespace SeedCleanup.Json

open SeedCleanup.Text

/-- A character between quotes. -/
def writtenChar (c : Char) : List Char :=
  match c with
  | '"' => ['\\', '"']
  | '\\' => ['\\', '\\']
  | '\x08' => ['\\', 'b']
  | '\t' => ['\\', 't']
  | '\n' => ['\\', 'n']
  | '\x0c' => ['\\', 'f']
  | '\r' => ['\\', 'r']
  | _ =>
    if c.toNat < 0x20 then
      ['\\', 'u', '0', '0', hexDigit (c.toNat / 16), hexDigit c.toNat]
    else [c]

/-- A text between quotes. -/
def writtenText (s : String) : List Char := '"' :: s.toList.flatMap writtenChar ++ ['"']

/-- The numeral of a number. -/
def writtenNumber : Number → List Char
  | .whole n => Nat.toDigits 10 n.toNat
  | .below n => (toString n.toInt).toList
  | .real x => if x.isFinite then x.documentText.toList else ['n', 'u', 'l', 'l']

mutual

/-- The characters of a document. -/
def written : Json → List Char
  | .null => ['n', 'u', 'l', 'l']
  | .bool true => ['t', 'r', 'u', 'e']
  | .bool false => ['f', 'a', 'l', 's', 'e']
  | .num n => writtenNumber n
  | .str s => writtenText s
  | .arr items => '[' :: writtenItems items ++ [']']
  | .obj members => '\x7b' :: writtenMembers members ++ ['\x7d']
  | .unreadable => ['n', 'u', 'l', 'l']

/-- The items of an array with commas between them. -/
def writtenItems : List Json → List Char
  | [] => []
  | [item] => written item
  | item :: rest => written item ++ ',' :: writtenItems rest

/-- The members of an object with commas between them. -/
def writtenMembers : List (String × Json) → List Char
  | [] => []
  | [(name, value)] => writtenText name ++ ':' :: written value
  | (name, value) :: rest => writtenText name ++ ':' :: written value ++ ',' :: writtenMembers rest

end

/-- The text of a document. -/
def text (j : Json) : String := String.ofList (written j)

end SeedCleanup.Json

import SeedCleanup.Text.Chars
import SeedCleanup.Text.HiddenTable

/-!
# Quoted text

Messages quote the names that they mention. A quoted text escapes the quote, the backslash and the
common controls by a letter, writes every other character that would not show by its number, and
leaves the rest as it is.
-/

namespace SeedCleanup.Text

/-- Whether a character would not show by itself. -/
def isHidden (c : Char) : Bool :=
  decide (c.toNat < 0x20) || c.toNat == 0x7F || inRanges hiddenRanges c.toNat

/-- The letter that stands for a character after a backslash. -/
def escapeLetter? (c : Char) : Option Char :=
  match c with
  | '\x00' => some '0'
  | '\t' => some 't'
  | '\r' => some 'r'
  | '\n' => some 'n'
  | '"' => some '"'
  | '\\' => some '\\'
  | _ => none

/-- A character as it stands between quotes. -/
def quotedChar (c : Char) : List Char :=
  match escapeLetter? c with
  | some letter => ['\\', letter]
  | none =>
    if isHidden c then ['\\', 'u', '\x7b'] ++ hexText c.toNat ++ ['\x7d'] else [c]

/-- A text between quotes. -/
def quoted (s : String) : String :=
  String.ofList (['"'] ++ s.toList.flatMap quotedChar ++ ['"'])

/-- A path between quotes, which escapes apostrophes too. -/
def quotedPath (s : String) : String :=
  let escaped (c : Char) : List Char := if c = '\'' then ['\\', c] else quotedChar c
  String.ofList (['"'] ++ s.toList.flatMap escaped ++ ['"'])

/-- A list of texts, each between quotes. -/
def quotedList (l : List String) : String := "[" ++ ", ".intercalate (l.map quoted) ++ "]"

end SeedCleanup.Text

import SeedCleanup.Text.Chars

/-!
# Texts of a configuration file

The four kinds of quoted text: between quotes with escapes or between apostrophes without, each on
one line or, with three marks, on several. Every reader gives what it read and the rest.
-/

namespace SeedCleanup.Toml

open SeedCleanup.Text

/-- Whether a character may stand in a text or a comment: any but control characters, where a tab
is none. -/
def isPlain (c : Char) : Bool :=
  c == '\t' || (decide (0x20 ≤ c.toNat) && c.toNat != 0x7F)

/-- Whether a character is a blank inside a line. -/
def isSpace (c : Char) : Bool := c == ' ' || c == '\t'

/-- Drop the blanks at the start of a line. -/
def dropSpaces (s : List Char) : List Char := s.dropWhile isSpace

/-- The rest behind the end of a line. -/
def newline? : List Char → Option (List Char)
  | '\n' :: rest => some rest
  | '\r' :: '\n' :: rest => some rest
  | _ => none

/-- The character that a letter stands for behind a backslash. -/
def escapeLetter? (c : Char) : Option Char :=
  match c with
  | 'b' => some '\x08'
  | 't' => some '\t'
  | 'n' => some '\n'
  | 'f' => some '\x0c'
  | 'r' => some '\r'
  | '"' => some '"'
  | '\\' => some '\\'
  | _ => none

/-- The character with a number of a fixed count of digits. -/
def numbered? (count : Nat) (s : List Char) : Option (Char × List Char) :=
  let digits := s.take count
  let n := hexNumber digits
  if digits.length == count && digits.all isHex && n.isValidChar then
    some (Char.ofNat n, s.drop count)
  else none

/-- The character that an escape stands for, given what is behind the backslash. -/
def escape? : List Char → Option (Char × List Char)
  | [] => none
  | c :: rest =>
    if c = 'u' then numbered? 4 rest
    else if c = 'U' then numbered? 8 rest
    else (escapeLetter? c).map (·, rest)

/-- Reads a text on one line up to its quote. The characters read so far are held in reverse. -/
def quotedLine? (read : List Char) (s : List Char) : Option (List Char × List Char) :=
  match s with
  | [] => none
  | '"' :: rest => some (read.reverse, rest)
  | '\\' :: rest =>
    match escape? rest with
    | none => none
    | some (c, after) =>
      -- every escape takes something away, so the other branch is never taken
      if after.length ≤ rest.length then quotedLine? (c :: read) after else none
  | c :: rest => if isPlain c then quotedLine? (c :: read) rest else none
termination_by s.length

/-- Reads a text on one line up to its apostrophe. -/
def literalLine? (s : List Char) : Option (List Char × List Char) :=
  let body := s.takeWhile fun c => c != '\'' && isPlain c
  match s.drop body.length with
  | '\'' :: rest => some (body, rest)
  | _ => none

/-- Drop blanks and ends of lines. -/
def dropLines : List Char → List Char
  | '\r' :: '\n' :: rest => dropLines rest
  | '\n' :: rest => dropLines rest
  | ' ' :: rest => dropLines rest
  | '\t' :: rest => dropLines rest
  | s => s

/-- The rest of a text behind a backslash that ends a line: the line end and all blanks after it are
left out of the text. -/
def continued? (s : List Char) : Option (List Char) := (newline? (dropSpaces s)).map dropLines

/-- How many of some mark stand at the start, five at most. -/
def marksAtStart (mark : Char) (s : List Char) : Nat := ((s.take 5).takeWhile (· == mark)).length

/-- Reads a text on several lines up to its three quotes. Up to two quotes more belong to the
text. -/
def quotedLines? (read : List Char) (s : List Char) : Option (List Char × List Char) :=
  match s with
  | [] => none
  | '\\' :: rest =>
    match continued? rest with
    | some after => if after.length ≤ rest.length then quotedLines? read after else none
    | none =>
      match escape? rest with
      | none => none
      | some (c, after) => if after.length ≤ rest.length then quotedLines? (c :: read) after else none
  | '\r' :: '\n' :: rest => quotedLines? ('\n' :: read) rest
  | '\n' :: rest => quotedLines? ('\n' :: read) rest
  | c :: rest =>
    let marks := marksAtStart '"' (c :: rest)
    if 3 ≤ marks then
      some (read.reverse ++ List.replicate (marks - 3) '"', (c :: rest).drop marks)
    else if isPlain c then quotedLines? (c :: read) rest
    else none
termination_by s.length

/-- Reads a text on several lines up to its three apostrophes. Up to two apostrophes more belong to
the text. -/
def literalLines? (read : List Char) : List Char → Option (List Char × List Char)
  | [] => none
  | '\r' :: '\n' :: rest => literalLines? ('\n' :: read) rest
  | '\n' :: rest => literalLines? ('\n' :: read) rest
  | c :: rest =>
    let marks := marksAtStart '\'' (c :: rest)
    if 3 ≤ marks then
      some (read.reverse ++ List.replicate (marks - 3) '\'', (c :: rest).drop marks)
    else if isPlain c then literalLines? (c :: read) rest
    else none

/-- The text without the end of a line at its start. -/
def dropNewline (s : List Char) : List Char := (newline? s).getD s

/-- Reads a text on one line. -/
def line? : List Char → Option (List Char × List Char)
  | '"' :: rest => quotedLine? [] rest
  | '\'' :: rest => literalLine? rest
  | _ => none

/-- Reads a text. -/
def text? (s : List Char) : Option (List Char × List Char) :=
  match s with
  | '"' :: '"' :: '"' :: rest => quotedLines? [] (dropNewline rest)
  | '\'' :: '\'' :: '\'' :: rest => literalLines? [] (dropNewline rest)
  | s => line? s

end SeedCleanup.Toml

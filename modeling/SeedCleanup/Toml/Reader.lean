import SeedCleanup.Json.Decoder
import SeedCleanup.Toml.Scalar
import SeedCleanup.Toml.Table

/-!
# Reading configuration files

A file is a sequence of headers and of values under keys, each on lines of its own. Values nest up
to a limit, which is also what the readers of values count down.
-/

namespace SeedCleanup.Toml

open SeedCleanup.Text

/-! ## Keys -/

/-- Whether a character can stand in a key without quotes. -/
def isBareChar (c : Char) : Bool := c.isAlphanum || c == '_' || c == '-'

/-- Reads one part of a key. -/
def keyPart? (s : List Char) : Option (String × List Char) :=
  match s with
  | '"' :: _ => (line? s).map fun (t, rest) => (String.ofList t, rest)
  | '\'' :: _ => (line? s).map fun (t, rest) => (String.ofList t, rest)
  | _ =>
    let bare := s.takeWhile isBareChar
    if bare.isEmpty then none else some (String.ofList bare, s.drop bare.length)

/-- The number of tables, arrays or parts of a key from which on a file nests too deep. -/
def nestingLimit : Nat := 80

/-- Reads the parts of a key with points between them, at most as many as are left. -/
def keyParts? : Nat → List Char → Option (List String × List Char)
  | 0, _ => none
  | left + 1, s => do
    let (part, s) ← keyPart? (dropSpaces s)
    match dropSpaces s with
    | '.' :: rest => do
      let (parts, s) ← keyParts? left rest
      some (part :: parts, s)
    | s => some ([part], s)

/-- A key: the path of its table, and its name there. -/
structure Key where
  path : List String
  name : String

/-- Reads a key with the blanks around it. -/
def key? (s : List Char) : Option (Key × List Char) := do
  let (parts, s) ← keyParts? (nestingLimit - 1) s
  let name ← parts.getLast?
  some (⟨parts.dropLast, name⟩, s)

/-! ## Values -/

/-- Drop a comment. -/
def dropComment (s : List Char) : List Char :=
  match s with
  | '#' :: rest => rest.dropWhile isPlain
  | _ => s

/-- Drop blanks, ends of lines and comments. -/
def dropFiller (s : List Char) : List Char :=
  let s' := dropLines s
  match s' with
  | '#' :: _ =>
    let after := dropComment s'
    if after.length < s.length then dropFiller after else after
  | _ => s'
termination_by s.length

/-- A reader of values. -/
abbrev ValueReader := List Char → Option (Json × List Char)

/-- Reads the items of an array up to its bracket. -/
def items? (value : ValueReader) (s : List Char) : Option (List Json × List Char) :=
  match dropFiller s with
  | ']' :: rest => some ([], rest)
  | start =>
    match value start with
    | none => none
    | some (item, rest) =>
      match dropFiller rest with
      | ']' :: rest => some ([item], rest)
      | ',' :: rest =>
        -- every value takes something away, so the other branch is never taken
        if rest.length < s.length then
          (items? value rest).map fun (items, rest) => (item :: items, rest)
        else none
      | _ => none
termination_by s.length

/-- Reads a value under its key. -/
def pair? (value : ValueReader) (s : List Char) : Option ((Key × Json) × List Char) := do
  let (key, s) ← key? s
  let s ← afterStart? ['='] s
  let (j, s) ← value (dropSpaces s)
  some ((key, j), s)

/-- Reads the values of a table on one line up to its brace, and puts them into the table. -/
def pairs? (value : ValueReader) (entries : Entries) (s : List Char) :
    Option (Entries × List Char) :=
  match pair? value s with
  | none => none
  | some ((key, j), rest) =>
    match putDotted key.path key.name j entries with
    | none => none
    | some entries =>
      match dropSpaces rest with
      | '\x7d' :: rest => some (entries, rest)
      | ',' :: rest => if rest.length < s.length then pairs? value entries rest else none
      | _ => none
termination_by s.length

/-- Reads a value that nests at most as deep as is left. -/
def value? : Nat → ValueReader
  | 0, s =>
    match s with
    | '[' :: _ => none
    | '\x7b' :: _ => none
    | _ => leaf? s
  | left + 1, s =>
    match s with
    | '[' :: rest => (items? (value? left) rest).map fun (items, rest) => (.arr items, rest)
    | '\x7b' :: rest =>
      match dropSpaces rest with
      | '\x7d' :: rest => some (.obj [], rest)
      | _ => (pairs? (value? left) [] rest).map fun (entries, rest) =>
          (.obj (entriesToJson entries), rest)
    | _ => leaf? s
where
  /-- Reads a value that holds no other. -/
  leaf? (s : List Char) : Option (Json × List Char) :=
    match s with
    | '"' :: _ => (text? s).map fun (t, rest) => (.str (String.ofList t), rest)
    | '\'' :: _ => (text? s).map fun (t, rest) => (.str (String.ofList t), rest)
    | _ => scalar? s

/-! ## Files -/

/-- The tables of a file so far, and the path of the one that was opened last. -/
structure Partial where
  root : Entries
  opened : List String

/-- The rest behind a line of which only blanks and a comment are left. -/
def endLine? (s : List Char) : Option (List Char) :=
  match dropComment (dropSpaces s) with
  | [] => some []
  | s => newline? s

/-- Reads a header or a value under its key. -/
def statement? (p : Partial) (s : List Char) : Option (Partial × List Char) :=
  match s with
  | '[' :: '[' :: rest => do
    let (key, s) ← key? rest
    let s ← afterStart? [']', ']'] s
    let root ← openItem key.path key.name p.root
    some (⟨root, key.path ++ [key.name]⟩, s)
  | '[' :: rest => do
    let (key, s) ← key? rest
    let s ← afterStart? [']'] s
    let root ← openTable key.path key.name p.root
    some (⟨root, key.path ++ [key.name]⟩, s)
  | _ => do
    let ((key, j), s) ← pair? (value? (nestingLimit - 1)) s
    let root ← putBelow p.opened key.path key.name j p.root
    some (⟨root, p.opened⟩, s)

/-- Reads the lines of a file. -/
def lines? (p : Partial) (s : List Char) : Option Partial :=
  match dropFiller s with
  | [] => some p
  | start =>
    match statement? p start with
    | none => none
    | some (p, rest) =>
      match endLine? rest with
      | none => none
      | some rest =>
        -- every statement takes something away, so the other branch is never taken
        if rest.length < s.length then lines? p rest else none
termination_by s.length

/-- The text without a byte order mark. -/
def dropMark (s : List Char) : List Char :=
  match s with
  | '\uFEFF' :: rest => rest
  | _ => s

/-- Reads a configuration file. -/
def parse (text : String) : Option Json :=
  (lines? ⟨[], []⟩ (dropMark text.toList)).map fun p => .obj (entriesToJson p.root)

/-- The liberties of configuration files: an array for a record may be longer than the record, and
an empty table or array may stand behind the name of a variant. -/
def dialect : SeedCleanup.Json.Dialect where
  longRecords := true
  isUnit j := match j with
    | .obj [] => true
    | .arr [] => true
    | _ => false
  numberedVariants := false

end SeedCleanup.Toml

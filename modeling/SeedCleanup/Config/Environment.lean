import SeedCleanup.Json.Basic
import SeedCleanup.Toml.Text

/-!
# Settings from the environment

A variable whose name starts with the program's mark sets one value of the configuration. The rest
of its name is the path to the value, and its text is a value in a small language of its own. A text
that is no value of that language stands for itself, so reading never fails.
-/

namespace SeedCleanup.Environment

open SeedCleanup.Text

/-- The variables of an environment in ascending order of their names. -/
abbrev Variables := List (String × String)

/-- Variables in any order as an environment. -/
def ofList (l : List (String × String)) : Variables := l.mergeSort fun a b => decide (a.1 ≤ b.1)

/-- The variable that an entry `name=text` sets, if the entry has a name. -/
def entry? (s : String) : Option (String × String) :=
  match cutFirst? '=' s.toList with
  | some (c :: name, text) => some (String.ofList (c :: name), String.ofList text)
  | _ => none

/-- The text of a variable. -/
def get? (vars : Variables) (name : String) : Option String := vars.lookup name

/-- The text of a variable that is set to something. -/
def nonempty? (vars : Variables) (name : String) : Option String :=
  (get? vars name).filter fun s => !s.isEmpty

/-! ## Values -/

/-- Whether a character is a blank between the parts of a value. -/
def isGap (c : Char) : Bool := c == ' ' || c == '\t' || c == '\n' || c == '\r' || c == '\x0c'

/-- Drop blanks. -/
def dropGap (s : List Char) : List Char := s.dropWhile isGap

/-- Whether a character ends a word. -/
def isSeparator (c : Char) : Bool :=
  c == ',' || c == '\x7b' || c == '\x7d' || c == '[' || c == ']'

/-- Whether a character can stand in a name without quotes. -/
def isNameChar (c : Char) : Bool := c.isAlphanum || c == '_' || c == '-'

/-- Takes the sign off a number. -/
def sign (s : List Char) : Bool × List Char :=
  match s with
  | '+' :: rest => (false, rest)
  | '-' :: rest => (true, rest)
  | _ => (false, s)

/-- Reads a double with a point: the point may stand at either end of the digits. -/
def double? (s : List Char) : Option Binary64 := do
  let (negative, s) := sign s
  let (whole, s) := s.span Char.isDigit
  let s ← afterStart? ['.'] s
  let (fraction, s) := s.span Char.isDigit
  if whole.isEmpty && fraction.isEmpty then none
  let exponent : Int ← match s with
    | [] => some 0
    | c :: rest =>
      if c = 'e' ∨ c = 'E' then
        let (below, digits) := sign rest
        (numeral? digits).map fun n => if below then -(n : Int) else n
      else none
  some (Binary64.ofDecimal negative (decimalValue (whole ++ fraction)) (exponent - fraction.length))

/-- The value of a word: a number if it reads as one, and else a text. -/
def wordValue (s : List Char) : Json :=
  match double? s with
  | some x => .num (.real x)
  | none =>
    match unsigned64? s with
    | some n => .num (.whole n)
    | none =>
      match signed64? s with
      | some n => .num (.below n)
      | none => .str (String.ofList s)

/-- A reader of values: the value and the rest. -/
abbrev ValueReader := List Char → Option (Json × List Char)

/-- Reads the items of a list up to its bracket. -/
def items? (value : ValueReader) (s : List Char) : Option (List Json × List Char) :=
  match s with
  | ']' :: rest => some ([], rest)
  | start =>
    match value start with
    | none => none
    | some (item, ']' :: rest) => some ([item], rest)
    | some (item, ',' :: rest) =>
      -- no value gives back more than it was given, so the other branch is never taken
      if rest.length < start.length then
        (items? value rest).map fun (items, rest) => (item :: items, rest)
      else none
    | some _ => none
termination_by s.length

/-- Reads a name and the sign behind it. -/
def name? (s : List Char) : Option (String × List Char) := do
  let s := dropGap s
  let (name, s) ← match s with
    | '"' :: rest => Toml.quotedLine? [] rest
    | _ =>
      let name := s.takeWhile isNameChar
      if name.isEmpty then none else some (name, s.drop name.length)
  let s ← afterStart? ['='] (dropGap s)
  some (String.ofList name, s)

/-- Reads the members of a table up to its brace; the last of one name holds. -/
def members? (value : ValueReader) (read : List (String × Json)) (s : List Char) :
    Option (List (String × Json) × List Char) :=
  match s with
  | '\x7d' :: rest => some (read, rest)
  | start =>
    match name? start with
    | none => none
    | some (name, s) =>
      match value s with
      | some (j, '\x7d' :: rest) => some (Json.setMember name j read, rest)
      | some (j, ',' :: rest) =>
        if rest.length < start.length then members? value (Json.setMember name j read) rest else none
      | _ => none
termination_by s.length

/-- Reads one character between apostrophes. -/
def letter? (s : List Char) : Option (Json × List Char) :=
  match s with
  | c :: '\'' :: rest => some (.str (String.singleton c), rest)
  | _ => none

/-- Reads a value with the blanks around it. Values nest at most as deep as is left. -/
def value? : Nat → ValueReader
  | 0, _ => none
  | left + 1, s =>
    let s := dropGap s
    let read :=
      match afterStart? ['t', 'r', 'u', 'e'] s, afterStart? ['f', 'a', 'l', 's', 'e'] s with
      | some rest, _ => some (Json.bool true, rest)
      | _, some rest => some (.bool false, rest)
      | _, _ =>
        match s with
        | '\x7b' :: rest => (members? (value? left) [] rest).map fun (ms, rest) => (.obj ms, rest)
        | '[' :: rest => (items? (value? left) rest).map fun (items, rest) => (.arr items, rest)
        | '"' :: rest =>
          (Toml.quotedLine? [] rest).map fun (t, rest) => (.str (String.ofList t), rest)
        | '\'' :: rest => letter? rest
        | _ =>
          let word := s.takeWhile fun c => !isSeparator c
          some (wordValue (trim word), s.drop word.length)
    read.map fun (j, rest) => (j, dropGap rest)

/-- The value of a text; values cannot nest deeper than the text is long. -/
def valueOf (text : String) : Json :=
  match value? (text.length + 1) text.toList with
  | some (j, []) => j
  | _ => .str text

/-! ## Paths -/

/-- The mark at the start of a name, in lower case. -/
def mark : List Char := "seedwarden_".toList

/-- The path that a name stands for: its parts behind the mark, in lower case. A name with an empty
part is not the program's. -/
def path? (name : String) : Option (List String) := do
  let lower := (trim name.toList).map Char.toLower
  let rest ← afterStart? mark lower
  let parts := splitBy (fun c => c == '_' || c == '.') (trim rest)
  if parts.any (·.isEmpty) then none else some (parts.map String.ofList)

/-- A value at the end of a path. -/
def nest (path : List String) (j : Json) : Json :=
  path.foldr (fun name j => .obj [(name, j)]) j

mutual

/-- A document with another laid over it: tables are joined, and anything else is replaced. -/
def overlay (below above : Json) : Json :=
  match above with
  | .obj members =>
    match below with
    | .obj old => .obj (overlayMembers old members)
    | _ => above
  | _ => above

/-- Members laid over others, one after the other. -/
def overlayMembers (old : List (String × Json)) : List (String × Json) → List (String × Json)
  | [] => old
  | (name, j) :: rest =>
    overlayMembers (Json.setMember name (match old.lookup name with
      | none => j
      | some below => overlay below j) old) rest

end

/-- What the variables of an environment set, as one document. -/
def settings (vars : Variables) : Json :=
  vars.foldl (fun j v => match path? v.1 with
    | none => j
    | some path => overlay j (nest path (valueOf v.2))) (.obj [])

end SeedCleanup.Environment

import SeedCleanup.Text.Chars
import SeedCleanup.Media.Basic

/-!
# Composite ids

A composite id names a title, one of its files or one of its seasons: `movie-12`, `movie-12-3` or
`series-5-s-2`. The numbers are decimal and carry no sign.
-/

namespace SeedCleanup

open SeedCleanup.Text

/-- Which files of a title an id names. -/
inductive FileSelector where
  | all
  | file (id : Int64)
  | season (number : Int32)
deriving DecidableEq, Inhabited

namespace FileSelector

/-- Whether a selector names a file of the title. -/
def selects (s : FileSelector) (f : MediaFile) : Bool :=
  match s with
  | all => true
  | file id => f.id == id
  | season number => f.season == number

/-- What a selector adds to the id of its title. -/
def suffix : FileSelector → String
  | all => ""
  | file id => "-" ++ toString id.toInt
  | season number => "-s-" ++ toString number.toInt

end FileSelector

/-- A title, one of its files, or one of its seasons. -/
structure MediaId where
  kind : MediaKind
  id : Int64
  selector : FileSelector
deriving DecidableEq, Inhabited

namespace MediaId

/-- Whether an id names a file of its title. -/
def selects (m : MediaId) (f : MediaFile) : Bool := m.selector.selects f

/-- The text of an id. -/
def text (m : MediaId) : String := m.kind.word ++ "-" ++ toString m.id.toInt ++ m.selector.suffix

/-- Reads a number without a sign that is below a bound. -/
def number? (bound : Nat) (s : List Char) : Option Nat :=
  (numeral? s).filter fun n => decide (n < bound)

/-- Reads what follows the number of the title. -/
def selector? : List (List Char) → Option FileSelector
  | [] => some .all
  | [file] => (number? (Nat.pow 2 63) file).map fun n => .file (Int64.ofNat n)
  | [['s'], season] => (number? (Nat.pow 2 31) season).map fun n => .season (Int32.ofNat n)
  | _ => none

/-- Reads an id. -/
def parse (text : String) : Option MediaId :=
  match splitOnChar '-' text.toList with
  | kind :: id :: rest => do
    let kind ← MediaKind.ofWord? (String.ofList kind)
    let id ← number? (Nat.pow 2 63) id
    let selector ← selector? rest
    some ⟨kind, Int64.ofNat id, selector⟩
  | _ => none

end MediaId

end SeedCleanup

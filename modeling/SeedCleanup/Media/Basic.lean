import SeedCleanup.Time.Instant

/-!
# Titles and their files

A media library holds titles, each a movie or a series, with the files that belong to it. A title is
known by its kind and its number.
-/

namespace SeedCleanup

/-- What kind of title a library keeps. -/
inductive MediaKind where
  | movie
  | series
deriving DecidableEq, Inhabited, Repr

namespace MediaKind

/-- The word for a kind, in ids and in documents. -/
def word : MediaKind → String
  | movie => "movie"
  | series => "series"

/-- The kind that a word names. -/
def ofWord? (word : String) : Option MediaKind :=
  if word = "movie" then some movie else if word = "series" then some series else none

/-- Movies come before series. -/
def rank : MediaKind → Nat
  | movie => 0
  | series => 1

instance : Ord MediaKind := ⟨fun a b => compare a.rank b.rank⟩

instance : Std.TransOrd MediaKind where
  eq_swap := by intro a b; cases a <;> cases b <;> rfl
  isLE_trans := by intro a b c; cases a <;> cases b <;> cases c <;> decide

instance : Std.LawfulEqOrd MediaKind where
  eq_of_compare := by intro a b; cases a <;> cases b <;> decide
  compare_self := by intro a; cases a <;> rfl

end MediaKind

/-- What a library says about a title. -/
structure Title where
  id : Int64
  kind : MediaKind
  name : String
  /-- Link to the title in the library. -/
  url : String
  added : Instant
deriving DecidableEq, Inhabited

/-- A file on disk that belongs to a title. -/
structure MediaFile where
  id : Int64
  /-- The season; a number below one means that the file has none. -/
  season : Int32
  /-- The path under which the file was first downloaded. -/
  path : String
  size : UInt64
deriving DecidableEq, Inhabited

/-- Whether a file takes part in the grouping by seasons. -/
def MediaFile.hasSeason (f : MediaFile) : Bool := decide (0 < f.season)

/-- A title with its files. -/
structure MediaEntry where
  title : Title
  files : List MediaFile
deriving DecidableEq, Inhabited

end SeedCleanup

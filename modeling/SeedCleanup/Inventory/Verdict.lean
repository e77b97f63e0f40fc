import SeedCleanup.Data.SortedTable
import SeedCleanup.Inventory.Link
import SeedCleanup.Tracker.Basic

/-!
# Verdicts

Each file gets a verdict: whether it may go, and the tracker that decided. The verdict of a season
or a title is folded from those of its files: one file that must stay keeps them all, and a tracker
is named only when all files name the same one.
-/

namespace SeedCleanup

/-- Whether something may be deleted. -/
inductive Decision where
  | safeToDelete
  | pending
deriving DecidableEq, Inhabited, Repr

namespace Decision

/-- The stricter of two decisions. -/
def worst : Decision → Decision → Decision
  | safeToDelete, safeToDelete => safeToDelete
  | _, _ => pending

/-- The place of a decision in an ascending listing. -/
def score : Decision → Nat
  | safeToDelete => 0
  | pending => 1

end Decision

/-- The verdict on a file, a season or a title. -/
structure Verdict where
  decision : Decision
  /-- The tracker that all files below have in common. -/
  tracker : Option Tracker
deriving DecidableEq, Inhabited

/-- Whether two trackers, either of which may be missing, ask for the same. -/
def sameTracker : Option Tracker → Option Tracker → Bool
  | none, none => true
  | some a, some b => a.same b
  | _, _ => false

namespace Verdict

/-- The verdict on two things together. -/
def combine (a b : Verdict) : Verdict :=
  ⟨a.decision.worst b.decision, if sameTracker a.tracker b.tracker then a.tracker else none⟩

/-- The verdict on all things of a list together, if there are any. -/
def fold? : List Verdict → Option Verdict
  | [] => none
  | v :: rest => some (rest.foldl combine v)

/-- The verdict on nothing: it may go. -/
def ofNothing : Verdict := ⟨.safeToDelete, none⟩

end Verdict

/-- The verdicts on a title, its seasons and its files. -/
structure Report where
  result : Verdict
  /-- Verdicts by season; a movie has none. -/
  seasons : SortedTable Int32 Verdict
  /-- Verdicts by file. -/
  files : SortedTable Int64 Verdict
deriving DecidableEq, Inhabited

namespace Report

/-- The verdicts on the files that satisfy a test, in the order of the files. -/
def verdictsOn (media : LinkedTitle) (files : SortedTable Int64 Verdict)
    (p : MediaFile → Bool) : List Verdict :=
  (media.files.filter fun f => p f.file).filterMap fun f => files.get? f.file.id

/-- The verdicts on the seasons of a series. -/
def seasonVerdicts (media : LinkedTitle) (files : SortedTable Int64 Verdict) :
    SortedTable Int32 Verdict :=
  match media.title.kind with
  | .movie => .empty
  | .series =>
    .ofList <| (media.files.filter (·.file.hasSeason)).filterMap fun f =>
      (Verdict.fold? (verdictsOn media files (·.season == f.file.season))).map (f.file.season, ·)

/-- The report that follows from the verdicts on the files. -/
def ofFiles (media : LinkedTitle) (files : SortedTable Int64 Verdict) : Report where
  result := (Verdict.fold? (verdictsOn media files fun _ => true)).getD Verdict.ofNothing
  seasons := seasonVerdicts media files
  files := files

end Report

end SeedCleanup

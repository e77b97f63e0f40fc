import SeedCleanup.Json.Printer
import SeedCleanup.Json.Decoder
import SeedCleanup.Number.Binary64
import SeedCleanup.Text.Quoted
import SeedCleanup.Time.Instant

/-!
# Trackers

A tracker asks for a ratio and a time of seeding before a torrent may go. A `TrackerRule` is how a
configuration states it: by a pattern for the hosts that belong to it.
-/

namespace SeedCleanup

/-- What a tracker asks of a torrent. -/
structure Tracker where
  name : String
  minRatio : Binary64
  minAge : Span
deriving DecidableEq, Inhabited

/-- Whether two trackers ask for the same; a ratio that is no number is not the same as itself. -/
def Tracker.same (a b : Tracker) : Bool :=
  a.name == b.name && a.minRatio.eqv b.minRatio && decide (a.minAge = b.minAge)

/-- A tracker as a document. -/
def Tracker.toJson (t : Tracker) : Json :=
  .obj [("name", .str t.name), ("min_ratio", .ofBinary64 t.minRatio),
    ("min_age_secs", .ofInt t.minAge.seconds)]

/-- A tracker as it is configured. -/
structure TrackerRule where
  name : String
  /-- A regular expression for the hosts of the tracker. -/
  pattern : String
  minRatio : Binary64
  minAgeHours : UInt64
deriving DecidableEq, Inhabited

namespace TrackerRule

/-- Reads a rule. -/
def ofJson? (d : Json.Dialect) (j : Json) : Option TrackerRule := do
  let r ← d.record? ["name", "pattern", "min_ratio", "min_age_hours"] j
  let name ← r.required "name" Json.string?
  let pattern ← r.required "pattern" Json.string?
  let minRatio ← r.required "min_ratio" Json.binary64?
  let minAgeHours ← r.required "min_age_hours" Json.uint64?
  some ⟨name, pattern, minRatio, minAgeHours⟩

/-- A rule as a document. -/
def toJson (r : TrackerRule) : Json :=
  .obj [("name", .str r.name), ("pattern", .str r.pattern),
    ("min_ratio", .ofBinary64 r.minRatio), ("min_age_hours", .ofInt r.minAgeHours.toNat)]

/-- The time of seeding that a rule asks for, unless it has too many hours for a span. -/
def minAge? (r : TrackerRule) : Option Span := Span.ofHours? r.minAgeHours

end TrackerRule

/-- Why no tracker could be named. -/
inductive TrackerError where
  | notFound (hosts : List String)
  | invalidPattern (name reason : String)
  | invalidMinAge (name : String) (hours : UInt64)
  | internal (text : String)
deriving DecidableEq, Inhabited

namespace TrackerError

/-- Whether an error means that no tracker is configured for the hosts. -/
def isNotFound : TrackerError → Bool
  | notFound _ => true
  | _ => false

/-- The message of an error. -/
def message : TrackerError → String
  | notFound hosts => "No tracker configured for " ++ Text.quotedList hosts
  | invalidPattern name reason => "Invalid tracker pattern for " ++ name ++ ": " ++ reason
  | invalidMinAge name hours =>
    "Minimum age of " ++ toString hours ++ " hours for " ++ name ++ " is out of range"
  | internal text => "Tracker resolution failed: " ++ text

end TrackerError

end SeedCleanup

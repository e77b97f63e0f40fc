import SeedCleanup.Media.Codec
import SeedCleanup.Source.Fleet
import SeedCleanup.Source.StandIn

/-!
# Managers of media libraries

The libraries form a fleet with one source for each kind of title. A saved copy is one list of all
titles.
-/

namespace SeedCleanup

/-- A request to delete files of titles of one kind. -/
structure FileDeletion where
  kind : MediaKind
  ids : List Int64
  /-- Whether the titles are no longer to be monitored. -/
  stopMonitoring : Bool
deriving DecidableEq, Inhabited

/-- A manager of media libraries. -/
abbrev MediaManager (μ : Type) := Manager μ MediaEntry FileDeletion

/-- A backend that is a media library. -/
abbrev MediaSource (σ : Type) := Source σ MediaEntry FileDeletion

/-- The entry without the files that have one of some ids. -/
def MediaEntry.withoutFiles (ids : List Int64) (e : MediaEntry) : MediaEntry :=
  { e with files := e.files.filter fun f => !ids.contains f.id }

/-- What is left of a library after a deletion: titles without files are dropped. -/
def FileDeletion.apply (d : FileDeletion) (entries : List MediaEntry) : List MediaEntry :=
  (entries.map (·.withoutFiles d.ids)).filter fun e => !e.files.isEmpty

/-- The media libraries by kind. -/
abbrev Libraries (σ : Type) := Fleet MediaKind σ MediaEntry

namespace Libraries

/-- The titles of a list, kind by kind. -/
def byKind (entries : List MediaEntry) : SortedTable MediaKind (List MediaEntry) :=
  .ofList (entries.map fun e =>
    (e.title.kind, entries.filter fun e' => e'.title.kind == e.title.kind))

/-- How a fleet of libraries works. -/
def rules : FleetRules MediaKind MediaEntry FileDeletion where
  identity := "seedwarden_core::media::manager::DefaultMediaManager"
  subject kind := "media entries for type " ++ kind.word
  unknown kind := "no media source registered for type " ++ kind.word
  keyOf d := d.kind
  without := FileDeletion.apply
  encode t := MediaEntry.saved t.values.flatten
  decode data := (MediaEntry.ofSaved? data).map byKind

/-- The manager of a fleet of libraries. -/
def manager {σ : Type} (source : MediaSource σ) : MediaManager (Libraries σ) :=
  Fleet.manager rules source

end Libraries

/-! ## A stand-in -/

/-- A stand-in for the manager of media libraries. -/
abbrev StandInLibrary := StandIn MediaEntry FileDeletion

namespace StandInLibrary

/-- What is left after a deletion: only titles of its kind lose files. -/
def without (d : FileDeletion) (entries : List MediaEntry) : List MediaEntry :=
  (entries.map fun e => if e.title.kind = d.kind then e.withoutFiles d.ids else e).filter
    fun e => !e.files.isEmpty

/-- How a stand-in library works. -/
def rules : StandInRules MediaEntry FileDeletion where
  identity := "seedwarden_core::testing::mock_media_manager::MockMediaManager"
  without d entries := .ok (without d entries)
  encode := MediaEntry.saved
  decode := MediaEntry.ofSaved?

/-- The manager of a stand-in library. -/
def manager : MediaManager StandInLibrary := StandIn.manager rules

end StandInLibrary

end SeedCleanup

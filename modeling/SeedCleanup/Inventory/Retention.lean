import SeedCleanup.Inventory.Error
import SeedCleanup.Inventory.Verdict

/-!
# Retention

A file may go when no torrent is linked to it, or when its torrent has seeded as long and as much as
its tracker asks. A torrent without a configured tracker keeps its files.
-/

namespace SeedCleanup

/-- How the tracker of a list of hosts is found. Finding it may change what the next search finds,
so the state is part of the answer. -/
structure TrackerResolver (σ : Type) where
  resolve : σ → List String → Except TrackerError Tracker × σ

/-- A resolver that only looks at the hosts. -/
def TrackerResolver.ofFunction (f : List String → Except TrackerError Tracker) :
    TrackerResolver Unit := ⟨fun _ hosts => (f hosts, ())⟩

/-- Whether a torrent has seeded enough for a tracker. A time that leaves the calendar never
comes. -/
def Torrent.seededEnough (t : Torrent) (tracker : Tracker) (now : Instant) : Bool :=
  tracker.minRatio.le t.ratio &&
    match t.added.add? tracker.minAge with
    | some ready => decide (ready ≤ now)
    | none => false

/-- The verdict on a file whose torrent belongs to a tracker. -/
def Torrent.verdict (t : Torrent) (tracker : Tracker) (now : Instant) : Verdict :=
  ⟨if t.seededEnough tracker now then .safeToDelete else .pending, some tracker⟩

/-- How messages name a file of a title. -/
def LinkedFile.described (f : LinkedFile) (title : Title) : String :=
  Text.quoted f.file.path ++ " of " ++ Text.quoted title.name

section

variable {σ : Type} (r : TrackerResolver σ) (now : Instant)

/-- The verdict on a file. -/
def LinkedFile.verdict (title : Title) (f : LinkedFile) (s : σ) :
    Except InventoryError Verdict × σ :=
  match f.torrent with
  | none => (.ok ⟨.safeToDelete, none⟩, s)
  | some t =>
    match r.resolve s t.trackers with
    | (.ok tracker, s) => (.ok (t.verdict tracker now), s)
    | (.error e, s) =>
      if e.isNotFound then (.ok ⟨.pending, none⟩, s)
      else (.error (.evaluation (f.described title) e), s)

/-- The verdicts on files, up to the first that cannot be given. -/
def verdictsOfFiles (title : Title) : List LinkedFile → σ →
    Except InventoryError (List (Int64 × Verdict)) × σ
  | [], s => (.ok [], s)
  | f :: rest, s =>
    match f.verdict r now title s with
    | (.error e, s) => (.error e, s)
    | (.ok v, s) =>
      match verdictsOfFiles title rest s with
      | (.error e, s) => (.error e, s)
      | (.ok vs, s) => (.ok ((f.file.id, v) :: vs), s)

/-- The report on a title. Of several files with one id the last decides. -/
def LinkedTitle.evaluate (media : LinkedTitle) (s : σ) : Except InventoryError Report × σ :=
  match verdictsOfFiles r now media.title media.files s with
  | (.error e, s) => (.error e, s)
  | (.ok verdicts, s) => (.ok (.ofFiles media (.ofList verdicts)), s)

end

end SeedCleanup

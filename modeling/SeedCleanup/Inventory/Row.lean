import SeedCleanup.Inventory.Item
import SeedCleanup.Inventory.Listing
import SeedCleanup.Media.Id
import SeedCleanup.Text.Lowercase

/-!
# Rows

A title is shown as a tree of rows: the title itself, below it the seasons of a series, and the
files. Every row carries the id that deletes what it shows.
-/

namespace SeedCleanup

/-- Whether the files of a row come from torrents. -/
inductive LinkStatus where
  | present
  | missing
  /-- Some files come from torrents and some do not. -/
  | incomplete
deriving DecidableEq, Inhabited, Repr

/-- The status of two things together. -/
def LinkStatus.combine (a b : LinkStatus) : LinkStatus := if a = b then a else incomplete

/-- What a row says about torrents. Ratio and age are absent when the files differ in them. -/
structure TorrentInfo where
  status : LinkStatus
  tracker : Option Tracker
  ratio : Option Binary64
  age : Option Span
deriving DecidableEq, Inhabited

namespace TorrentInfo

/-- Whether two ratios, either of which may be missing, are equal numbers. -/
def sameRatio : Option Binary64 → Option Binary64 → Bool
  | none, none => true
  | some a, some b => a.eqv b
  | _, _ => false

/-- Whether status, ratio and age agree. -/
def agrees (a b : TorrentInfo) : Bool :=
  a.status == b.status && sameRatio a.ratio b.ratio && a.age == b.age

/-- Take in another file: what differs is cleared. The tracker stays. -/
def combine (a b : TorrentInfo) : TorrentInfo :=
  if a.agrees b then a else ⟨a.status.combine b.status, a.tracker, none, none⟩

/-- What is said about files without torrents. -/
def unlinked : TorrentInfo := ⟨.missing, none, none, none⟩

/-- What is said about all files of a list; a tracker is not named. -/
def fold : List TorrentInfo → TorrentInfo
  | [] => unlinked
  | i :: rest => { rest.foldl combine i with tracker := none }

end TorrentInfo

/-- A title, a season or a file as it is shown. -/
structure Row where
  /-- The composite id of what is shown. -/
  id : String
  kind : MediaKind
  title : String
  url : Option String
  size : UInt64
  added : Option Instant
  torrent : TorrentInfo
  decision : Decision
  /-- Whether the row offers to delete what it shows. -/
  allowDeletion : Bool
  children : List Row
deriving Inhabited

namespace Row

/-- What is said about the torrent of a file. -/
def torrentOfFile (verdict : Option Verdict) (f : LinkedFile) (now : Instant) : TorrentInfo :=
  match f.torrent with
  | some t => ⟨.present, verdict.bind (·.tracker), some t.ratio, some (now.since t.added)⟩
  | none => .unlinked

/-- The row of a file. -/
def ofFile (item : Item) (now : Instant) (f : LinkedFile) : Row :=
  let title := item.linked.title
  let verdict := item.report.files.get? f.file.id
  { id := (MediaId.mk title.kind title.id (.file f.file.id)).text
    kind := title.kind
    title := Text.baseName f.file.path
    url := none
    size := f.file.size
    added := f.torrent.map (·.added)
    torrent := torrentOfFile verdict f now
    decision := (verdict.map (·.decision)).getD .pending
    allowDeletion := true
    children := [] }

/-- The row of a season that has one file so far. -/
def ofSeason (item : Item) (season : Int32) (id : String) (file : Row) : Row :=
  let verdict := item.report.seasons.get? season
  { id := id
    kind := item.linked.title.kind
    title := "Season " ++ toString season.toInt
    url := none
    size := file.size
    added := file.added
    torrent := { file.torrent with tracker := verdict.bind (·.tracker) }
    decision := (verdict.map (·.decision)).getD file.decision
    allowDeletion := true
    children := [file] }

/-- Add a file to the row of its season. -/
def addFile (season file : Row) : Row :=
  { season with
    size := season.size + file.size
    torrent := season.torrent.combine file.torrent
    added := if season.added = file.added then season.added else none
    children := season.children ++ [file] }

/-- Change the first row with an id, if there is one. -/
def updateFirst? (id : String) (f : Row → Row) : List Row → Option (List Row)
  | [] => none
  | row :: rest =>
    if row.id = id then some (f row :: rest) else (updateFirst? id f rest).map (row :: ·)

/-- Put a file below its title: into the row of its season if it has one, which comes to stand
where its first file would. -/
def place (item : Item) (now : Instant) (rows : List Row) (f : LinkedFile) : List Row :=
  let file := ofFile item now f
  let title := item.linked.title
  if title.kind = .series ∧ f.file.hasSeason then
    let id := (MediaId.mk title.kind title.id (.season f.file.season)).text
    match updateFirst? id (·.addFile file) rows with
    | some rows => rows
    | none => rows ++ [ofSeason item f.file.season id file]
  else rows ++ [file]

/-- The files of a season that comes from one torrent can only be deleted together. -/
def guardSeason (row : Row) : Row :=
  if row.torrent.ratio.isSome then
    { row with children := row.children.map fun c => { c with allowDeletion := false } }
  else row

/-- The tree of rows of a title. -/
def ofItem (item : Item) (now : Instant) : Row :=
  let title := item.linked.title
  let files := item.linked.files
  let torrent := TorrentInfo.fold (files.map fun f => (ofFile item now f).torrent)
  { id := (MediaId.mk title.kind title.id .all).text
    kind := title.kind
    title := title.name
    url := some title.url
    size := item.size
    added := some item.added
    torrent := { torrent with tracker := item.report.result.tracker }
    decision := item.report.result.decision
    allowDeletion := true
    children := (files.foldl (place item now) []).map guardSeason }

/-- The row of a title without the rows below it. -/
def summary (item : Item) (now : Instant) : Row := { ofItem item now with children := [] }

end Row

/-- A page of a listing. -/
structure Page where
  rows : List Row
  hasNextPage : Bool
  page : UInt64

/-- The page of a listing whose items are in order. -/
def Page.ofSorted (sorted : List Item) (page : UInt64) (now : Instant) : Page :=
  ⟨(pageOf page sorted).map (Row.summary · now), SeedCleanup.hasNextPage page sorted,
    pageNumber page⟩

/-- The page of a listing. -/
def Page.of (items : List Item) (sorting : Sorting) (page : UInt64) (now : Instant) : Page :=
  .ofSorted (sorting.apply Text.lowercase items) page now

end SeedCleanup

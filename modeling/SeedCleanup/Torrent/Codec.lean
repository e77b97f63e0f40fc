import SeedCleanup.Data.SortedTable
import SeedCleanup.Media.Codec
import SeedCleanup.Torrent.Basic

/-!
# Torrents as documents

A saved pool is one object that gives each client its list of torrents.
-/

namespace SeedCleanup

namespace TorrentFile

/-- Reads a file of a torrent. -/
def ofJson? (j : Json) : Option TorrentFile := do
  let r ← Json.plain.record? ["path", "size"] j
  let path ← r.required "path" Json.string?
  let size ← r.required "size" Json.uint64?
  some ⟨path, size⟩

/-- A file of a torrent as a document. -/
def toJson (f : TorrentFile) : Json := .obj [("path", .str f.path), ("size", .ofInt f.size.toNat)]

end TorrentFile

namespace Torrent

/-- Reads a torrent. -/
def ofJson? (j : Json) : Option Torrent := do
  let r ← Json.plain.record? ["client", "id", "name", "ratio", "added", "trackers", "files"] j
  let client ← r.required "client" Json.string?
  let id ← r.required "id" Json.string?
  let name ← r.required "name" Json.string?
  let ratio ← r.required "ratio" Json.binary64?
  let added ← r.required "added" Instant.ofJson?
  let trackers ← r.required "trackers" (Json.list? Json.string?)
  let files ← r.required "files" (Json.list? TorrentFile.ofJson?)
  some ⟨client, id, name, ratio, added, trackers, files⟩

/-- A torrent as a document. -/
def toJson (t : Torrent) : Json :=
  .obj [("client", .str t.client), ("id", .str t.id), ("name", .str t.name),
    ("ratio", .ofBinary64 t.ratio), ("added", t.added.toJson),
    ("trackers", .ofList .str t.trackers), ("files", .ofList TorrentFile.toJson t.files)]

/-- The saved form of a list of torrents. -/
def saved (torrents : List Torrent) : String := (Json.ofList toJson torrents).text

/-- Reads the saved form of a list of torrents. -/
def ofSaved? (data : String) : Option (List Torrent) := (Json.parse data).bind (Json.list? ofJson?)

/-- The saved form of the torrents of each client. -/
def savedByClient (t : SortedTable String (List Torrent)) : String :=
  (Json.obj (t.entries.map fun e => (e.1, .ofList toJson e.2))).text

/-- Reads the torrents of one client. -/
def clientOfMember? (m : String × Json) : Option (String × List Torrent) :=
  (m.2.list? ofJson?).map (m.1, ·)

/-- Reads the torrents of each client. Of several lists for one client the last is kept. -/
def ofSavedByClient? (data : String) : Option (SortedTable String (List Torrent)) :=
  match Json.parse data with
  | some (.obj members) => (members.mapM clientOfMember?).map SortedTable.ofList
  | _ => none

end Torrent

end SeedCleanup

import SeedCleanup.Number.Binary64
import SeedCleanup.Time.Instant

/-!
# Torrents

A torrent as its client reports it. Across clients a torrent is known by the name of its client and
its number there.
-/

namespace SeedCleanup

/-- A file inside a torrent. -/
structure TorrentFile where
  /-- The path below the root of the torrent. -/
  path : String
  size : UInt64
deriving DecidableEq, Inhabited

/-- A torrent as its client reports it. -/
structure Torrent where
  /-- The name of the client that holds the torrent. -/
  client : String
  /-- What the client calls the torrent. -/
  id : String
  name : String
  /-- Uploaded data over downloaded data. -/
  ratio : Binary64
  added : Instant
  /-- The hosts of the trackers that the torrent announces to. -/
  trackers : List String
  files : List TorrentFile
deriving DecidableEq, Inhabited

/-- What identifies a torrent across clients. -/
structure TorrentKey where
  client : String
  id : String
deriving DecidableEq, Inhabited

/-- The key of a torrent. -/
def Torrent.key (t : Torrent) : TorrentKey := ⟨t.client, t.id⟩

/-- The text of a key. -/
def TorrentKey.text (k : TorrentKey) : String := k.client ++ "/" ++ k.id

end SeedCleanup

import SeedCleanup.Net.Client
import SeedCleanup.Source.Memory
import SeedCleanup.Torrent.Deluge
import SeedCleanup.Torrent.QBittorrent

/-!
# Backends of torrent clients

A client is one of the kinds that are reached over the web, or held in memory.
-/

namespace SeedCleanup

/-- A client in memory. -/
abbrev MemoryClient := MemorySource Torrent TorrentKey

/-- A backend with the torrents of one client. -/
inductive TorrentBackend where
  | memory (client : MemoryClient)
  | qBittorrent (q : QBittorrent) (loggedIn : Bool) (wire : Wire)
  | deluge (d : Deluge) (state : Deluge.State) (wire : Wire)

namespace TorrentBackend

/-- An operation of any of the backends. -/
def act {α : Type} (memory : Call MemoryClient α) (qBittorrent : QBittorrent → Session Bool α)
    (deluge : Deluge → Session Deluge.State α) : Call TorrentBackend α where
  millis s := match s with
    | .memory m => memory.millis m
    | .qBittorrent q i w => (qBittorrent q).call.millis (i, w)
    | .deluge d i w => (deluge d).call.millis (i, w)
  run s := match s with
    | .memory m => let (r, m) := memory.run m; (r, .memory m)
    | .qBittorrent q i w => let (r, i, w) := (qBittorrent q).call.run (i, w); (r, .qBittorrent q i w)
    | .deluge d i w => let (r, i, w) := (deluge d).call.run (i, w); (r, .deluge d i w)
  abandon s := match s with
    | .memory m => .memory (memory.abandon m)
    | .qBittorrent q i w => let (i, w) := (qBittorrent q).call.abandon (i, w); .qBittorrent q i w
    | .deluge d i w => let (i, w) := (deluge d).call.abandon (i, w); .deluge d i w

/-- The operations of a backend. -/
def source : TorrentSource TorrentBackend where
  fetch := act MemorySource.source.fetch QBittorrent.torrents Deluge.torrents
  delete key := act (MemorySource.source.delete key) (·.delete key.id) (·.delete key.id)

end TorrentBackend

end SeedCleanup

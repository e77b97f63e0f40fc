import SeedCleanup.Net.Ip
import SeedCleanup.Tracker.Basic

/-!
# Configuration

What the program can be told: where it listens, how it keeps its inventory, which trackers have
which rules, and which libraries and clients it works with.
-/

namespace SeedCleanup

/-- Where the program listens. -/
structure ServerSettings where
  host : IpAddress := .v4 0 0 0 0
  port : UInt16 := 8080
deriving DecidableEq, Inhabited

/-- How the inventory is kept. -/
structure InventorySettings where
  /-- The directory of the snapshots. -/
  cacheDir : String := "./cache"
  /-- Take the contents of the backends from the snapshots. -/
  useCachedCopy : Bool := false
  /-- Write snapshots after every refresh. -/
  persist : Bool := false
  /-- How long a call of a manager may take; zero means any time. -/
  sourceTimeoutSecs : UInt64 := 120
deriving DecidableEq, Inhabited

/-- The limit for calls of managers in milliseconds, if there is one. -/
def InventorySettings.deadline? (s : InventorySettings) : Option Nat :=
  if s.sourceTimeoutSecs = 0 then none else some (s.sourceTimeoutSecs.toNat * 1000)

/-- How a library is reached. -/
structure LibrarySettings where
  url : String
  apiKey : String
  timeoutSecs : UInt32 := 30
deriving DecidableEq, Inhabited

/-- The libraries. -/
structure MediaSettings where
  sonarr : Option LibrarySettings := none
  radarr : Option LibrarySettings := none
deriving DecidableEq, Inhabited

/-- The kinds of torrent clients. -/
inductive ClientBackend where
  | qBittorrent
  | deluge
deriving DecidableEq, Inhabited

/-- The word for a kind of client. -/
def ClientBackend.word : ClientBackend → String
  | qBittorrent => "qbittorrent"
  | deluge => "deluge"

/-- The kind of client that a word names. -/
def ClientBackend.ofWord? (word : String) : Option ClientBackend :=
  if word = "qbittorrent" then some qBittorrent
  else if word = "deluge" then some deluge
  else none

/-- How a torrent client is reached. -/
structure ClientSettings where
  name : String
  backend : ClientBackend
  url : String
  username : String := ""
  password : String := ""
  timeoutSecs : UInt32 := 30
deriving DecidableEq, Inhabited

/-- A whole configuration. -/
structure Config where
  /-- Only say what would be deleted. -/
  dryRun : Bool := false
  server : ServerSettings := {}
  inventory : InventorySettings := {}
  /-- The rules of the trackers, in the order in which they are tried. -/
  trackers : List TrackerRule := []
  media : MediaSettings := {}
  clients : List ClientSettings := []
deriving DecidableEq, Inhabited

end SeedCleanup

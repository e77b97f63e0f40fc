import SeedCleanup.Source.Fleet
import SeedCleanup.Source.StandIn
import SeedCleanup.Text.Quoted
import SeedCleanup.Torrent.Codec

/-!
# Managers of torrent clients

The clients form a fleet with one source for each name. A saved copy holds the list of each client
under its name.
-/

namespace SeedCleanup

/-- A manager of torrent clients. -/
abbrev TorrentManager (τ : Type) := Manager τ Torrent TorrentKey

/-- A backend that is a torrent client. -/
abbrev TorrentSource (σ : Type) := Source σ Torrent TorrentKey

/-- The torrent clients by name. -/
abbrev Clients (σ : Type) := Fleet String σ Torrent

namespace Clients

/-- How a fleet of clients works. -/
def rules : FleetRules String Torrent TorrentKey where
  identity := "seedwarden_core::torrent::manager::DefaultTorrentManager"
  subject name := "torrent entries for client " ++ Text.quoted name
  unknown name := "no torrent client registered as " ++ Text.quoted name
  keyOf key := key.client
  without key torrents := torrents.filter (·.id != key.id)
  encode := Torrent.savedByClient
  decode := Torrent.ofSavedByClient?

/-- The manager of a fleet of clients. -/
def manager {σ : Type} (source : TorrentSource σ) : TorrentManager (Clients σ) :=
  Fleet.manager rules source

end Clients

/-! ## A stand-in -/

/-- A stand-in for the manager of torrent clients. -/
abbrev StandInClient := StandIn Torrent TorrentKey

namespace StandInClient

/-- What is left after a deletion, which must find its torrent. -/
def without (key : TorrentKey) (torrents : List Torrent) : Except SourceError (List Torrent) :=
  if torrents.any (·.key == key) then .ok (torrents.filter (·.key != key))
  else .error (.notFound key.text)

/-- How a stand-in client works. -/
def rules : StandInRules Torrent TorrentKey where
  identity := "seedwarden_core::testing::mock_torrent_manager::MockTorrentManager"
  without := without
  encode := Torrent.saved
  decode := Torrent.ofSaved?

/-- The manager of a stand-in client. -/
def manager : TorrentManager StandInClient := StandIn.manager rules

end StandInClient

end SeedCleanup

import SeedCleanup.Config.Check
import SeedCleanup.Inventory.Refresh
import SeedCleanup.Media.Backend
import SeedCleanup.Startup.Log
import SeedCleanup.Torrent.Backend

/-!
# Putting the program together

A configuration becomes libraries, clients and rules, and what is put together is said on the way.
-/

namespace SeedCleanup

/-- Why the program cannot be put together. -/
inductive AssemblyError where
  | library (name : String) (error : SourceError)
  | trackers (error : TrackerError)
deriving Inhabited

/-- The parts of the program. -/
structure Assembly where
  libraries : Libraries MediaBackend
  clients : Clients TorrentBackend
  rules : TrackerRules
  habits : Habits

/-- A wire to no server. -/
def Wire.unplugged : Wire := { server := none, script := [] }

/-- The capitalized name of the server of a library. -/
def MediaKind.serverTitle : MediaKind → String
  | movie => "Radarr"
  | series => "Sonarr"

/-- The title of a kind of client. -/
def ClientBackend.title : ClientBackend → String
  | qBittorrent => "qBittorrent"
  | deluge => "Deluge"

/-- The backend of a client. -/
def ClientSettings.backendOf (s : ClientSettings) (dryRun : Bool) : TorrentBackend :=
  let wire := { Wire.unplugged with cookies := some [] }
  match s.backend with
  | .qBittorrent => .qBittorrent ⟨s, dryRun⟩ false wire
  | .deluge => .deluge ⟨s, dryRun⟩ {} wire

namespace Config

variable (c : Config)

/-- The configured libraries, in the order in which they are put together. -/
def librarySettings : List (MediaKind × LibrarySettings) :=
  (c.media.sonarr.map (MediaKind.series, ·)).toList ++
    (c.media.radarr.map (MediaKind.movie, ·)).toList

/-- Put libraries together, up to the first that cannot be. -/
def assembleLibraries :
    List (MediaKind × LibrarySettings) →
      List LogEvent × Except AssemblyError (List (MediaKind × MediaBackend))
  | [] => ([], .ok [])
  | (kind, s) :: rest =>
    let said : LogEvent :=
      ⟨.info, "Initializing " ++ kind.serverTitle ++ " source at " ++ s.url⟩
    match ArrServer.ofSettings kind s c.dryRun with
    | .error e => ([said], .error (.library kind.serverTitle e))
    | .ok a =>
      match assembleLibraries rest with
      | (events, .error e) => (said :: events, .error e)
      | (events, .ok l) => (said :: events, .ok ((kind, .server a .unplugged) :: l))

/-- What is said about clients. -/
def clientEvents : List LogEvent :=
  (c.clients.map fun s => ⟨.info, "Initializing " ++ s.backend.title ++ " client " ++
    Text.quoted s.name ++ " at " ++ s.url⟩) ++
  if c.clients.isEmpty then
    [⟨.warn, "No torrent clients configured, every file will be reported as unlinked"⟩]
  else []

/-- The torrent clients. -/
def assembleClients : Clients TorrentBackend :=
  .ofSources (c.clients.map fun s => (s.name, s.backendOf c.dryRun))

/-- Put the program together, with its snapshots in a directory. -/
def assemble (dir : String) : List LogEvent × Except AssemblyError Assembly :=
  match c.assembleLibraries c.librarySettings with
  | (events, .error e) => (events, .error e)
  | (events, .ok libraries) =>
    let events := events ++ c.clientEvents
    match TrackerRules.ofConfig c.trackers with
    | .error e => (events, .error (.trackers e))
    | .ok rules =>
      (events ++ [⟨.info, "Loaded " ++ toString rules.length ++ " tracker rules"⟩,
          ⟨.info, "Inventory snapshots in " ++ Text.quotedPath dir⟩],
        .ok ⟨.ofSources libraries, c.assembleClients, rules, c.inventory.habits dir⟩)

end Config

end SeedCleanup

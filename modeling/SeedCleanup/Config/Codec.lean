import SeedCleanup.Config.Basic
import SeedCleanup.Inventory.Codec

/-!
# Configurations as documents

A configuration is read from any format whose dialect is given. It is written in full, or redacted:
then only the presence of a secret is told.
-/

namespace SeedCleanup

/-! ## Reading -/

/-- Reads an address. -/
def IpAddress.ofJson? (j : Json) : Option IpAddress := j.string?.bind IpAddress.parse

section

variable (d : Json.Dialect)

/-- Reads where to listen. -/
def ServerSettings.ofJson? (j : Json) : Option ServerSettings := do
  let r ← d.record? ["host", "port"] j
  let usual : ServerSettings := {}
  let host ← r.withDefault "host" usual.host IpAddress.ofJson?
  let port ← r.withDefault "port" usual.port Json.uint16?
  some { host, port }

/-- Reads how the inventory is kept. -/
def InventorySettings.ofJson? (j : Json) : Option InventorySettings := do
  let r ← d.record? ["cache_dir", "use_cached_copy", "persist", "source_timeout_secs"] j
  let usual : InventorySettings := {}
  let cacheDir ← r.withDefault "cache_dir" usual.cacheDir Json.string?
  let useCachedCopy ← r.withDefault "use_cached_copy" usual.useCachedCopy Json.bool?
  let persist ← r.withDefault "persist" usual.persist Json.bool?
  let timeout ← r.withDefault "source_timeout_secs" usual.sourceTimeoutSecs Json.uint64?
  some ⟨cacheDir, useCachedCopy, persist, timeout⟩

/-- Reads how a library is reached. -/
def LibrarySettings.ofJson? (j : Json) : Option LibrarySettings := do
  let r ← d.record? ["url", "api_key", "timeout_secs"] j
  let url ← r.required "url" Json.string?
  let apiKey ← r.required "api_key" Json.string?
  let timeout ← r.withDefault "timeout_secs" 30 Json.uint32?
  some ⟨url, apiKey, timeout⟩

/-- Reads the libraries. -/
def MediaSettings.ofJson? (j : Json) : Option MediaSettings := do
  let r ← d.record? ["sonarr", "radarr"] j
  let sonarr ← r.withDefault "sonarr" none (Json.option? (LibrarySettings.ofJson? d))
  let radarr ← r.withDefault "radarr" none (Json.option? (LibrarySettings.ofJson? d))
  some ⟨sonarr, radarr⟩

/-- Reads a kind of client. -/
def ClientBackend.ofJson? (j : Json) : Option ClientBackend :=
  (d.variant? ["qbittorrent", "deluge"] j).bind ofWord?

/-- Reads how a client is reached. -/
def ClientSettings.ofJson? (j : Json) : Option ClientSettings := do
  let r ← d.record? ["name", "backend", "url", "username", "password", "timeout_secs"] j
  let name ← r.required "name" Json.string?
  let backend ← r.required "backend" (ClientBackend.ofJson? d)
  let url ← r.required "url" Json.string?
  let username ← r.withDefault "username" "" Json.string?
  let password ← r.withDefault "password" "" Json.string?
  let timeout ← r.withDefault "timeout_secs" 30 Json.uint32?
  some ⟨name, backend, url, username, password, timeout⟩

/-- Reads a configuration. -/
def Config.ofJson? (j : Json) : Option Config := do
  let r ← d.record? ["dry_run", "server", "inventory", "trackers", "media", "torrent_clients"] j
  let dryRun ← r.withDefault "dry_run" false Json.bool?
  let server ← r.withDefault "server" {} (ServerSettings.ofJson? d)
  let inventory ← r.withDefault "inventory" {} (InventorySettings.ofJson? d)
  let trackers ← r.withDefault "trackers" [] (Json.list? (TrackerRule.ofJson? d))
  let media ← r.withDefault "media" {} (MediaSettings.ofJson? d)
  let clients ← r.withDefault "torrent_clients" [] (Json.list? (ClientSettings.ofJson? d))
  some ⟨dryRun, server, inventory, trackers, media, clients⟩

end

/-! ## Writing in full -/

/-- Where to listen, as a document. -/
def ServerSettings.toJson (s : ServerSettings) : Json :=
  .obj [("host", .str s.host.text), ("port", .ofInt s.port.toNat)]

/-- How the inventory is kept, as a document. -/
def InventorySettings.toJson (s : InventorySettings) : Json :=
  .obj [("cache_dir", .str s.cacheDir), ("use_cached_copy", .bool s.useCachedCopy),
    ("persist", .bool s.persist), ("source_timeout_secs", .ofInt s.sourceTimeoutSecs.toNat)]

/-- How a library is reached, as a document. -/
def LibrarySettings.toJson (s : LibrarySettings) : Json :=
  .obj [("url", .str s.url), ("api_key", .str s.apiKey),
    ("timeout_secs", .ofInt s.timeoutSecs.toNat)]

/-- The libraries as a document. -/
def MediaSettings.toJson (s : MediaSettings) : Json :=
  .obj [("sonarr", .ofOption LibrarySettings.toJson s.sonarr),
    ("radarr", .ofOption LibrarySettings.toJson s.radarr)]

/-- How a client is reached, as a document. -/
def ClientSettings.toJson (s : ClientSettings) : Json :=
  .obj [("name", .str s.name), ("backend", .str s.backend.word), ("url", .str s.url),
    ("username", .str s.username), ("password", .str s.password),
    ("timeout_secs", .ofInt s.timeoutSecs.toNat)]

/-- A configuration as a document. -/
def Config.toJson (c : Config) : Json :=
  .obj [("dry_run", .bool c.dryRun), ("server", c.server.toJson),
    ("inventory", c.inventory.toJson), ("trackers", .ofList TrackerRule.toJson c.trackers),
    ("media", c.media.toJson), ("torrent_clients", .ofList ClientSettings.toJson c.clients)]

/-! ## Writing without secrets -/

/-- How a library is reached, without its key. -/
def LibrarySettings.redacted (s : LibrarySettings) : Json :=
  .obj [("url", .str s.url), ("api_key_configured", .bool !s.apiKey.isEmpty),
    ("timeout_secs", .ofInt s.timeoutSecs.toNat)]

/-- How a client is reached, without its password. -/
def ClientSettings.redacted (s : ClientSettings) : Json :=
  .obj [("name", .str s.name), ("backend", .str s.backend.word), ("url", .str s.url),
    ("username", .str s.username), ("password_configured", .bool !s.password.isEmpty),
    ("timeout_secs", .ofInt s.timeoutSecs.toNat)]

/-- The libraries without their keys; one that is not configured is left out. -/
def MediaSettings.redacted (s : MediaSettings) : Json :=
  .obj (optionalMember "sonarr" LibrarySettings.redacted s.sonarr ++
    optionalMember "radarr" LibrarySettings.redacted s.radarr)

/-- A configuration without its secrets. -/
def Config.redacted (c : Config) : Json :=
  .obj [("dry_run", .bool c.dryRun), ("server", c.server.toJson),
    ("inventory", c.inventory.toJson), ("trackers", .ofList TrackerRule.toJson c.trackers),
    ("media", c.media.redacted), ("torrent_clients", .ofList ClientSettings.redacted c.clients)]

end SeedCleanup

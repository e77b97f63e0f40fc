import SeedCleanup.Inventory.Item
import SeedCleanup.Inventory.Link
import SeedCleanup.Inventory.Snapshots
import SeedCleanup.Media.Manager
import SeedCleanup.Torrent.Manager

/-!
# Refreshing the inventory

The inventory keeps the items of the last refresh. A refresh renews the copies of both managers,
links and evaluates what they hold, and publishes new items only when every step succeeded.
-/

namespace SeedCleanup

/-! ## Calls under a limit -/

/-- Wait for a call for so many milliseconds at most; an answer in the last moment still counts. -/
def Call.within {σ α : Type} (limit : Option Nat) (stage : String) (c : Call σ α) (s : σ) :
    Except InventoryError α × σ :=
  if limit.any (· < c.millis s) then (.error (.timeout stage), c.abandon s)
  else
    match c.run s with
    | (.error e, s) => (.error (.source stage e), s)
    | (.ok a, s) => (.ok a, s)

/-- How long a caller waits for a call. -/
def Call.waited {σ α : Type} (limit : Option Nat) (c : Call σ α) (s : σ) : Nat :=
  match limit with
  | none => c.millis s
  | some n => min n (c.millis s)

/-! ## Renewing a manager's copy -/

/-- Where a refresh takes the copies of the managers from. -/
inductive RefreshMode where
  /-- From the backends; the copies may then be written to disk. -/
  | live (persist : Bool)
  /-- From disk. -/
  | replay
deriving DecidableEq, Inhabited

/-- The mode that a configuration asks for. -/
def InventorySettings.mode (s : InventorySettings) : RefreshMode :=
  if s.useCachedCopy then .replay else .live s.persist

/-- How an inventory refreshes and how long it waits. -/
structure Habits where
  mode : RefreshMode
  /-- The limit for calls of managers in milliseconds. -/
  limit : Option Nat
  /-- The directory of the snapshots. -/
  dir : String
deriving DecidableEq, Inhabited

/-- The habits that a configuration asks for, with the directory of its snapshots. -/
def InventorySettings.habits (s : InventorySettings) (dir : String) : Habits :=
  ⟨s.mode, s.deadline?, dir⟩

section

variable {μ β δ : Type} (m : Manager μ β δ) (h : Habits)

/-- Renew the copy of a manager. -/
def Manager.renew (folder : SnapshotFolder) (s : μ) :
    Except InventoryError Unit × μ × SnapshotFolder :=
  match h.mode with
  | .replay =>
    let (result, s) := m.restore h.dir folder s
    (result, s, folder)
  | .live persist =>
    match m.refresh.within h.limit ("refresh " ++ m.identity) s with
    | (.error e, s) => (.error e, s, folder)
    | (.ok (), s) => if persist then m.persist h.dir folder s else (.ok (), s, folder)

/-- How long it takes to renew the copy of a manager. -/
def Manager.renewMillis (s : μ) : Nat :=
  match h.mode with
  | .replay => 0
  | .live _ => m.refresh.waited h.limit s

end

/-! ## The inventory and its backends -/

/-- What an inventory works with. -/
structure Backends (μ τ ρ : Type) where
  media : MediaManager μ
  torrents : TorrentManager τ
  trackers : TrackerResolver ρ
  habits : Habits

/-- The state of an inventory and of what it works with. -/
structure Inventory (μ τ ρ : Type) where
  media : μ
  torrents : τ
  trackers : ρ
  folder : SnapshotFolder := .missing
  /-- The items that were published last; nothing before the first refresh. -/
  items : Option (List Item) := none

namespace Inventory

variable {μ τ ρ : Type} (b : Backends μ τ ρ) (now : Instant)

/-! ## Refreshing -/

/-- Renew the copy of the torrents. -/
def renewTorrents (s : Inventory μ τ ρ) : Except InventoryError Unit × Inventory μ τ ρ :=
  let (result, torrents, folder) := b.torrents.renew b.habits s.folder s.torrents
  (result, { s with torrents, folder })

/-- Renew the copy of the media. -/
def renewMedia (s : Inventory μ τ ρ) : Except InventoryError Unit × Inventory μ τ ρ :=
  let (result, media, folder) := b.media.renew b.habits s.folder s.media
  (result, { s with media, folder })

/-- The failures of the two sides, each under the name of its manager. -/
def failures (media torrents : Except InventoryError Unit) : List (String × InventoryError) :=
  let failure (name : String) : Except InventoryError Unit → List (String × InventoryError)
    | .ok () => []
    | .error e => [(name, e)]
  failure b.media.identity media ++ failure b.torrents.identity torrents

/-- The titles that the media manager holds. -/
def heldMedia (s : Inventory μ τ ρ) :
    Except InventoryError (List MediaEntry) × Inventory μ τ ρ :=
  let (result, media) := b.media.contents.within b.habits.limit "get media" s.media
  (result, { s with media })

/-- The torrents that the torrent manager holds. -/
def heldTorrents (s : Inventory μ τ ρ) :
    Except InventoryError (List Torrent) × Inventory μ τ ρ :=
  let (result, torrents) := b.torrents.contents.within b.habits.limit "get torrents" s.torrents
  (result, { s with torrents })

/-- Link and evaluate titles and torrents, and publish the items. -/
def publish (media : List MediaEntry) (torrents : List Torrent) (s : Inventory μ τ ρ) :
    Except InventoryError (List Item) × Inventory μ τ ρ :=
  match Item.ofLinked b.trackers now (linkMedia media torrents) s.trackers with
  | (.error e, trackers) => (.error e, { s with trackers })
  | (.ok items, trackers) => (.ok items, { s with trackers, items := some items })

/-- Rebuild the items from what the managers hold. -/
def rebuild (s : Inventory μ τ ρ) : Except InventoryError (List Item) × Inventory μ τ ρ :=
  match s.heldMedia b with
  | (.error e, s) => (.error e, s)
  | (.ok media, s) =>
    match s.heldTorrents b with
    | (.error e, s) => (.error e, s)
    | (.ok torrents, s) => s.publish b now media torrents

/-- Finish a refresh, given how the side of the torrents went: renew the copy of the media, and
rebuild the items if both sides succeeded. -/
def finishRefresh (torrents : Except InventoryError Unit) (s : Inventory μ τ ρ) :
    Except InventoryError (List Item) × Inventory μ τ ρ :=
  let (media, s) := s.renewMedia b
  match failures b media torrents with
  | [] => s.rebuild b now
  | failed => (.error (.refresh failed), s)

/-- Refresh the inventory. Both sides are renewed whatever happens to the other. -/
def refresh (s : Inventory μ τ ρ) : Except InventoryError (List Item) × Inventory μ τ ρ :=
  let (torrents, s) := s.renewTorrents b
  s.finishRefresh b now torrents

end Inventory

end SeedCleanup

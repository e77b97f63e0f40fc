import SeedCleanup.Inventory.Refresh
import SeedCleanup.Media.Id

/-!
# Deleting from the inventory

A deletion removes the torrents of the selected files, then the files, and takes both out of the
items only when every call succeeded. A torrent that is gone already is no failure.
-/

namespace SeedCleanup

/-! ## What is deleted -/

/-- The torrents of files, each once, in the order in which they first appear. -/
def torrentKeys (files : List LinkedFile) : List TorrentKey :=
  (files.filterMap fun f => f.torrent.map (·.key)).eraseDups

/-- The files of an item that an id names. -/
def Item.selected (item : Item) (id : MediaId) : List LinkedFile :=
  item.linked.files.filter fun f => id.selects f.file

/-- The title that an id addresses, if the id names files of it. -/
def selection? (id : MediaId) (items : List Item) : Option Item :=
  (items.find? (·.isTitle id.kind id.id)).filter fun item => !(item.selected id).isEmpty

/-- The items without the files that an id names; a title without files goes as a whole. -/
def withoutSelected (id : MediaId) : List Item → List Item
  | [] => []
  | item :: rest =>
    if item.isTitle id.kind id.id then
      if (item.selected id).length = item.linked.files.length then rest
      else item.withoutFiles id.selects :: rest
    else item :: withoutSelected id rest

/-! ## Deleting -/

namespace Inventory

variable {μ τ ρ : Type} (b : Backends μ τ ρ)

/-- Delete torrents of a title one after the other, up to the first failure. -/
def deleteTorrents (title : String) : List TorrentKey → τ → Except InventoryError Unit × τ
  | [], s => (.ok (), s)
  | key :: rest, s =>
    let stage := "delete torrent " ++ key.text ++ " of " ++ Text.quoted title
    match (b.torrents.delete key).within b.habits.limit stage s with
    | (.ok (), s) => deleteTorrents title rest s
    | (.error (.source stage e), s) =>
      if e.isNotFound then deleteTorrents title rest s else (.error (.source stage e), s)
    | (.error e, s) => (.error e, s)

/-- Delete files of a title. -/
def deleteFiles (title : Title) (ids : List Int64) (s : μ) : Except InventoryError Unit × μ :=
  (b.media.delete ⟨title.kind, ids, true⟩).within b.habits.limit
    ("delete media files of " ++ Text.quoted title.name) s

/-- Delete the files of a title that an id names, with their torrents. -/
def deleteSelected (id : MediaId) (item : Item) (items : List Item) (s : Inventory μ τ ρ) :
    Except InventoryError Unit × Inventory μ τ ρ :=
  let files := item.selected id
  let title := item.linked.title
  match deleteTorrents b title.name (torrentKeys files) s.torrents with
  | (.error e, torrents) => (.error e, { s with torrents })
  | (.ok (), torrents) =>
    match deleteFiles b title (files.map (·.file.id)) s.media with
    | (.error e, media) => (.error e, { s with torrents, media })
    | (.ok (), media) =>
      (.ok (), { s with torrents, media, items := some (withoutSelected id items) })

/-- Delete what an id names. -/
def delete (text : String) (s : Inventory μ τ ρ) : Except InventoryError Unit × Inventory μ τ ρ :=
  match MediaId.parse text with
  | none => (.error (.malformedId text), s)
  | some id =>
    match s.items with
    | none => (.error (.mediaNotFound text), s)
    | some items =>
      match selection? id items with
      | none => (.error (.mediaNotFound text), s)
      | some item => s.deleteSelected b id item items

end Inventory

end SeedCleanup

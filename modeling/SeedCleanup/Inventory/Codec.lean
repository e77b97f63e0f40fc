import SeedCleanup.Inventory.Row
import SeedCleanup.Media.Codec

/-!
# Rows and sortings as documents

Absent links and trackers are left out of a row, while absent ratios, ages and times are null.
-/

namespace SeedCleanup

namespace Decision

/-- The word for a decision. -/
def word : Decision → String
  | safeToDelete => "safe_to_delete"
  | pending => "pending"

/-- The decision that a word names. -/
def ofWord? (word : String) : Option Decision :=
  if word = "safe_to_delete" then some safeToDelete
  else if word = "pending" then some pending
  else none

/-- Reads a decision. -/
def ofJson? (j : Json) : Option Decision :=
  (Json.plain.variant? ["safe_to_delete", "pending"] j).bind ofWord?

/-- A decision as a document. -/
def toJson (d : Decision) : Json := .str d.word

end Decision

namespace LinkStatus

/-- The word for a status. -/
def word : LinkStatus → String
  | present => "present"
  | missing => "missing"
  | incomplete => "incomplete"

/-- The status that a word names. -/
def ofWord? (word : String) : Option LinkStatus :=
  if word = "present" then some present
  else if word = "missing" then some missing
  else if word = "incomplete" then some incomplete
  else none

/-- Reads a status. -/
def ofJson? (j : Json) : Option LinkStatus :=
  (Json.plain.variant? ["present", "missing", "incomplete"] j).bind ofWord?

/-- A status as a document. -/
def toJson (s : LinkStatus) : Json := .str s.word

end LinkStatus

namespace SortKey

/-- The word for a key. -/
def word : SortKey → String
  | name => "name"
  | size => "size"
  | added => "added"
  | status => "status"
  | unknown => "unknown"

/-- The key that a word names; a word that names none is an unknown key. -/
def ofWord (word : String) : SortKey :=
  match word with
  | "name" => name
  | "size" => size
  | "added" => added
  | "status" => status
  | "torrent_status" => status
  | _ => unknown

/-- Reads a key. -/
def ofJson? (j : Json) : Option SortKey := (Json.plain.variant? [] j).map ofWord

end SortKey

namespace SortOrder

/-- The word for a direction. -/
def word : SortOrder → String
  | ascending => "asc"
  | descending => "desc"

/-- The direction that a word names. -/
def ofWord? (word : String) : Option SortOrder :=
  if word = "asc" then some ascending else if word = "desc" then some descending else none

/-- Reads a direction. -/
def ofJson? (j : Json) : Option SortOrder := (Json.plain.variant? ["asc", "desc"] j).bind ofWord?

end SortOrder

namespace Sorting

/-- Reads a sorting; a field that is not given has its usual value. -/
def ofJson? (j : Json) : Option Sorting := do
  let r ← Json.plain.record? ["key", "order"] j
  let key ← r.withDefault "key" .name SortKey.ofJson?
  let order ← r.withDefault "order" .ascending SortOrder.ofJson?
  some ⟨key, order⟩

/-- A sorting as a document. -/
def toJson (s : Sorting) : Json := .obj [("key", .str s.key.word), ("order", .str s.order.word)]

end Sorting

/-- A member that is left out when there is no value. -/
def optionalMember {α : Type} (name : String) (encode : α → Json) (a : Option α) :
    List (String × Json) := (a.map fun a => (name, encode a)).toList

/-- What a row says about torrents, as a document. -/
def TorrentInfo.toJson (i : TorrentInfo) : Json :=
  .obj ([("link_status", i.status.toJson)] ++ optionalMember "tracker" Tracker.toJson i.tracker ++
    [("ratio", .ofOption .ofBinary64 i.ratio),
      ("age_secs", .ofOption (fun d => .ofInt d.seconds) i.age)])

namespace Row

mutual

/-- A row as a document. -/
def toJson : Row → Json
  | ⟨id, kind, title, url, size, added, torrent, decision, allowDeletion, children⟩ =>
    .obj ([("id", .str id), ("media_type", kind.toJson), ("title", .str title)] ++
      optionalMember "url" .str url ++
      [("size", .ofInt size.toNat), ("added", .ofOption Instant.toJson added),
        ("torrent", torrent.toJson), ("decision", decision.toJson),
        ("allow_deletion", .bool allowDeletion), ("children", .arr (listToJson children))])

/-- The rows of a list, each as a document. -/
def listToJson : List Row → List Json
  | [] => []
  | row :: rest => toJson row :: listToJson rest

end

end Row

/-- A page as a document. -/
def Page.toJson (p : Page) : Json :=
  .obj [("rows", .ofList Row.toJson p.rows), ("has_next_page", .bool p.hasNextPage),
    ("page", .ofInt p.page.toNat)]

end SeedCleanup

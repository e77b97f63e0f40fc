import SeedCleanup.Inventory.Refresh
import SeedCleanup.Inventory.Row
import SeedCleanup.Media.Id

/-!
# Reading the inventory

Reads answer from the items that were published last. The first read refreshes the inventory.
-/

namespace SeedCleanup

namespace Inventory

variable {μ τ ρ : Type} (b : Backends μ τ ρ) (now : Instant)

/-- The items, after a refresh if there are none yet. -/
def populated (s : Inventory μ τ ρ) : Except InventoryError (List Item) × Inventory μ τ ρ :=
  match s.items with
  | some items => (.ok items, s)
  | none => s.refresh b now

/-- One page of the titles. -/
def list (page : UInt64) (sorting : Sorting) (s : Inventory μ τ ρ) :
    Except InventoryError Page × Inventory μ τ ρ :=
  match s.populated b now with
  | (.error e, s) => (.error e, s)
  | (.ok items, s) => (.ok (Page.of items sorting page now), s)

/-- The rows of the title that an id addresses, among items. -/
def rowOf (text : String) (id : MediaId) (items : List Item) : Except InventoryError Row :=
  match items.find? (·.isTitle id.kind id.id) with
  | none => .error (.mediaNotFound text)
  | some item => .ok (Row.ofItem item now)

/-- The rows of a title. An id of a file or a season addresses its title. -/
def expand (text : String) (s : Inventory μ τ ρ) : Except InventoryError Row × Inventory μ τ ρ :=
  match MediaId.parse text with
  | none => (.error (.malformedId text), s)
  | some id =>
    match s.populated b now with
    | (.error e, s) => (.error e, s)
    | (.ok items, s) => (rowOf now text id items, s)

end Inventory

end SeedCleanup

import SeedCleanup.Inventory.Deletion
import SeedCleanup.Inventory.Reading

/-!
# Requests to the inventory

The operations of the inventory as values, and what happens to a request that comes while a refresh
is on its way: it is answered from the items there are, unless it has to wait for its turn.
-/

namespace SeedCleanup

/-- What can be asked of an inventory. -/
inductive Request where
  | refresh
  | delete (id : String)
  | list (page : UInt64) (sorting : Sorting)
  | expand (id : String)
deriving DecidableEq, Inhabited

/-- What an inventory answers to a request. -/
inductive Answer where
  | done
  | page (p : Page)
  | row (r : Row)

namespace Inventory

variable {μ τ ρ : Type} (b : Backends μ τ ρ) (now : Instant)

/-- Carry out a request. -/
def perform (request : Request) (s : Inventory μ τ ρ) :
    Except InventoryError Answer × Inventory μ τ ρ :=
  match request with
  | .refresh =>
    let (result, s) := s.refresh b now
    (result.map fun _ => .done, s)
  | .delete id =>
    let (result, s) := s.delete b id
    (result.map fun _ => .done, s)
  | .list page sorting =>
    let (result, s) := s.list b now page sorting
    (result.map .page, s)
  | .expand id =>
    let (result, s) := s.expand b now id
    (result.map .row, s)

/-- Whether a request has to wait while another one may publish items: a request that may publish
items itself does, but one with a malformed id is refused at once. -/
def mustWait (request : Request) (s : Inventory μ τ ρ) : Bool :=
  match request with
  | .refresh => true
  | .delete id => (MediaId.parse id).isSome
  | .list _ _ => s.items.isNone
  | .expand id => (MediaId.parse id).isSome && s.items.isNone

/-- How long a refresh takes that starts now. -/
def refreshMillis (s : Inventory μ τ ρ) : Nat :=
  max (b.media.renewMillis b.habits s.media) (b.torrents.renewMillis b.habits s.torrents)

/-- What came of a refresh and of something else that was begun during it. -/
structure Overlap (μ τ ρ α : Type) where
  refreshed : Except InventoryError (List Item)
  answer : α
  /-- The inventory when the other thing was done. -/
  answered : Inventory μ τ ρ
  /-- The inventory when both were done. -/
  after : Inventory μ τ ρ

/-- Start a refresh and, some time later, something else, which may have to wait for its turn. -/
def overlapWith {α : Type} (millis : Nat) (waits : Inventory μ τ ρ → Bool)
    (act : Inventory μ τ ρ → α × Inventory μ τ ρ) (s : Inventory μ τ ρ) : Overlap μ τ ρ α :=
  let underWay := decide (millis ≤ s.refreshMillis b)
  let (torrents, s) := s.renewTorrents b
  if underWay && !waits s then
    let (answer, s) := act s
    let (refreshed, after) := s.finishRefresh b now torrents
    ⟨refreshed, answer, s, after⟩
  else
    let (refreshed, s) := s.finishRefresh b now torrents
    let (answer, s) := act s
    ⟨refreshed, answer, s, s⟩

/-- Start a refresh and, some time later, carry out a request. -/
def overlap (millis : Nat) (request : Request) (s : Inventory μ τ ρ) :
    Overlap μ τ ρ (Except InventoryError Answer) :=
  s.overlapWith b now millis (mustWait request) (perform b now request)

end Inventory

end SeedCleanup

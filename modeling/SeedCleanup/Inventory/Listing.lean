import SeedCleanup.Inventory.Item

/-!
# Listing the inventory

The order of a listing and its pages. Titles that compare equal keep their order in either
direction. The bounds of a page are numbers of 64 bits; one that would be larger is the largest of
them.
-/

namespace SeedCleanup

/-- What a listing is sorted by. -/
inductive SortKey where
  | name
  | size
  | added
  | status
  /-- Anything else, which leaves the order as it is. -/
  | unknown
deriving DecidableEq, Inhabited

/-- The direction of a listing. -/
inductive SortOrder where
  | ascending
  | descending
deriving DecidableEq, Inhabited

/-- How a listing is sorted. -/
structure Sorting where
  key : SortKey := .name
  order : SortOrder := .ascending
deriving DecidableEq, Inhabited

section

variable (lower : String → String)

/-- Compare two items by a key. Names are compared as `lower` writes them. -/
def SortKey.compare (key : SortKey) (a b : Item) : Ordering :=
  match key with
  | .name => Ord.compare (lower a.linked.title.name) (lower b.linked.title.name)
  | .size => Ord.compare a.size b.size
  | .added => Ord.compare a.added b.added
  | .status => Ord.compare a.report.result.decision.score b.report.result.decision.score
  | .unknown => .eq

namespace Sorting

/-- Compare two items as a listing does. -/
def compare (s : Sorting) (a b : Item) : Ordering :=
  match s.order with
  | .ascending => s.key.compare lower a b
  | .descending => (s.key.compare lower a b).swap

/-- The items in the order of a listing. -/
def apply (s : Sorting) (items : List Item) : List Item :=
  items.mergeSort fun a b => s.compare lower a b != .gt

end Sorting

end

/-! ## Pages -/

/-- A sum, or the largest number if the sum is too large. -/
def saturatingAdd (a b : UInt64) : UInt64 := .ofNatClamp (a.toNat + b.toNat)

/-- A product, or the largest number if the product is too large. -/
def saturatingMul (a b : UInt64) : UInt64 := .ofNatClamp (a.toNat * b.toNat)

/-- The part of a list from one index up to another, if these are the bounds of a part. -/
def part? {α : Type} (start stop : UInt64) (l : List α) : Option (List α) :=
  if start ≤ stop ∧ stop.toNat ≤ l.length then some ((l.take stop.toNat).drop start.toNat)
  else none

/-- How many titles a page of a listing shows. -/
def pageSize : UInt64 := 10

/-- The number of a page: the first page is also page zero. -/
def pageNumber (page : UInt64) : UInt64 := if page = 0 then 1 else page

/-- The index of the first item of a page, if the listing is that long. -/
def pageStart (page : UInt64) : UInt64 := saturatingMul (pageNumber page - 1) pageSize

/-- The index after the last item of a page. -/
def pageStop (page : UInt64) (sorted : List Item) : UInt64 :=
  min (saturatingAdd (pageStart page) pageSize) (.ofNat sorted.length)

/-- The items of a page. A page after the last one has none. -/
def pageOf (page : UInt64) (sorted : List Item) : List Item :=
  (part? (pageStart page) (pageStop page sorted) sorted).getD []

/-- Whether there are items after a page. -/
def hasNextPage (page : UInt64) (sorted : List Item) : Bool :=
  decide (pageStop page sorted < .ofNat sorted.length)

end SeedCleanup

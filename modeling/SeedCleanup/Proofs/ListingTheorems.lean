import Mathlib.Data.List.Basic
import SeedCleanup.Inventory.Reading
import SeedCleanup.Proofs.RetentionSafety

/-!
# Listings and their pages

A listing compares items by a total preorder, and sorting by it is stable (`isStableSort_apply`). The
bounds of a page, computed with 64 bits, are those that natural numbers would give
(`pageOf_eq_take_drop`), so that the pages up to the first one without a next page show each title
once (`PagesOf`).
-/

namespace SeedCleanup

/-! ## Stable sorting -/

/-- The elements of a list in the order of a comparison. Elements that compare equal stand as they
did in the list. -/
structure IsStableSort {α : Type} (cmp : α → α → Ordering) (l sorted : List α) : Prop where
  perm : sorted.Perm l
  ascending : sorted.Pairwise fun a b => cmp a b ≠ .gt
  stable : ∀ a, (sorted.filter fun b => cmp a b == .eq) = l.filter fun b => cmp a b == .eq

section

variable {α : Type} (cmp : α → α → Ordering) [Std.TransCmp cmp]

theorem ne_gt_trans (a b c : α) (hab : (cmp a b != .gt) = true) (hbc : (cmp b c != .gt) = true) :
    (cmp a c != .gt) = true := by
  have hle₁ : (cmp a b).isLE = true := Ordering.isLE_iff_ne_gt.2 (bne_iff_ne.1 hab)
  have hle₂ : (cmp b c).isLE = true := Ordering.isLE_iff_ne_gt.2 (bne_iff_ne.1 hbc)
  exact bne_iff_ne.2 (Ordering.isLE_iff_ne_gt.1 (Std.TransCmp.isLE_trans hle₁ hle₂))

theorem ne_gt_total (a b : α) : (cmp a b != .gt || cmp b a != .gt) = true := by
  have hswap : cmp b a = (cmp a b).swap := Std.OrientedCmp.eq_swap
  rw [hswap]
  cases cmp a b <;> rfl

theorem isStableSort_mergeSort (l : List α) :
    IsStableSort cmp l (l.mergeSort fun a b => cmp a b != .gt) where
  perm := List.mergeSort_perm _ _
  ascending := by
    have h := List.pairwise_mergeSort (ne_gt_trans cmp) (ne_gt_total cmp) l
    exact h.imp fun hab => bne_iff_ne.1 hab
  stable := by
    intro a
    -- what compares equal to `a` is in order already, so it is a sublist of what is sorted
    have hties : (l.filter fun b => cmp a b == .eq).Pairwise fun b c => (cmp b c != .gt) = true := by
      rw [List.pairwise_filter]
      refine List.pairwise_of_forall fun b c hb hc => ?_
      have hswap : cmp b a = (cmp a b).swap := Std.OrientedCmp.eq_swap
      have hba : cmp b a = .eq := by
        rw [hswap, eq_of_beq hb]
        rfl
      rw [Std.TransCmp.eq_trans hba (eq_of_beq hc)]
      rfl
    have hsublist : (l.filter fun b => cmp a b == .eq).Sublist
        (l.mergeSort fun a b => cmp a b != .gt) :=
      List.sublist_mergeSort (ne_gt_trans cmp) (ne_gt_total cmp) hties List.filter_sublist
    have hkept := hsublist.filter fun b => cmp a b == .eq
    simp only [List.filter_filter, Bool.and_self] at hkept
    refine (hkept.eq_of_length ?_).symm
    exact ((List.mergeSort_perm l _).filter _).length_eq.symm

end

/-! ## The order of a listing -/

instance : Std.TransOrd Instant :=
  inferInstanceAs (Std.TransCmp (compareLex (compareOn Instant.second) (compareOn Instant.nano)))

section

variable (lower : String → String)

instance transCmp_compareKey (key : SortKey) : Std.TransCmp (key.compare lower) := by
  cases key with
  | name => exact inferInstanceAs (Std.TransCmp (compareOn fun a : Item => lower a.linked.title.name))
  | size => exact inferInstanceAs (Std.TransCmp (compareOn Item.size))
  | added => exact inferInstanceAs (Std.TransCmp (compareOn Item.added))
  | status =>
    exact inferInstanceAs (Std.TransCmp (compareOn fun a : Item => a.report.result.decision.score))
  | unknown => exact { eq_swap := rfl, isLE_trans := fun _ _ => rfl }

instance transCmp_compare (sorting : Sorting) : Std.TransCmp (sorting.compare lower) := by
  obtain ⟨key, order⟩ := sorting
  cases order with
  | ascending => exact transCmp_compareKey lower key
  | descending =>
    have hswap : Sorting.compare lower ⟨key, .descending⟩ = fun a b => key.compare lower b a := by
      funext a b
      have hab : key.compare lower b a = (key.compare lower a b).swap := Std.OrientedCmp.eq_swap
      exact hab.symm
    rw [hswap]
    exact Std.TransCmp.opposite

theorem isStableSort_apply (sorting : Sorting) (items : List Item) :
    IsStableSort (sorting.compare lower) items (sorting.apply lower items) :=
  isStableSort_mergeSort _ items

/-- An unknown key leaves all items where they are. -/
theorem apply_of_unknown {sorting : Sorting} (h : sorting.key = .unknown) (items : List Item) :
    sorting.apply lower items = items := by
  obtain ⟨key, order⟩ := sorting
  obtain rfl : key = .unknown := h
  refine List.mergeSort_of_pairwise (List.pairwise_of_forall fun a b => ?_)
  cases order <;> rfl

end

/-! ## The bounds of a page -/

theorem toNat_ofNatClamp (n : Nat) : (UInt64.ofNatClamp n).toNat = min n (UInt64.size - 1) := by
  by_cases h : n < UInt64.size
  · rw [UInt64.toNat_ofNatClamp_of_lt h]
    omega
  · rw [UInt64.toNat_ofNatClamp_of_le (by omega)]
    omega

/-- No number is below the first page, so that one can be taken from the number of a page. -/
theorem toNat_pageNumber (page : UInt64) : (pageNumber page).toNat = max page.toNat 1 := by
  unfold pageNumber
  split
  · rename_i hzero
    rw [hzero]
    rfl
  · rename_i hne
    have hpos : page.toNat ≠ 0 := fun hzero => hne (UInt64.toNat_inj.1 hzero)
    omega

theorem toNat_pageStart (page : UInt64) :
    (pageStart page).toNat = min (10 * (max page.toNat 1 - 1)) (UInt64.size - 1) := by
  have hnumber := toNat_pageNumber page
  have hone : (1 : UInt64) ≤ pageNumber page := by
    rw [UInt64.le_iff_toNat_le, hnumber]
    exact Nat.le_max_right _ _
  have hsize : pageSize.toNat = 10 := rfl
  rw [pageStart, saturatingMul, toNat_ofNatClamp, UInt64.toNat_sub_of_le _ _ hone, hnumber, hsize,
    Nat.mul_comm]
  rfl

section

variable {sorted : List Item} (hlength : sorted.length < UInt64.size) (page : UInt64)
include hlength

theorem toNat_ofNat_length : (UInt64.ofNat sorted.length).toNat = sorted.length :=
  UInt64.toNat_ofNat_of_lt' hlength

/-- A page ends after its tenth item or with the listing. -/
theorem toNat_pageStop :
    (pageStop page sorted).toNat = min (10 * max page.toNat 1) sorted.length := by
  have hstart := toNat_pageStart page
  have hsum : (saturatingAdd (pageStart page) pageSize).toNat
      = min ((pageStart page).toNat + 10) (UInt64.size - 1) := toNat_ofNatClamp _
  have hmin : (pageStop page sorted).toNat
      = min (saturatingAdd (pageStart page) pageSize).toNat sorted.length := by
    rw [pageStop, UInt64.toNat_min, toNat_ofNat_length hlength]
  have hone : 1 ≤ max page.toNat 1 := Nat.le_max_right _ _
  omega

/-- A page in the listing has the bounds of a part of it. -/
theorem part?_of_lt (h : 10 * (max page.toNat 1 - 1) < sorted.length) :
    part? (pageStart page) (pageStop page sorted) sorted
      = some ((sorted.drop (10 * (max page.toNat 1 - 1))).take 10) := by
  have hstart : (pageStart page).toNat = 10 * (max page.toNat 1 - 1) := by
    rw [toNat_pageStart]
    omega
  have hstop := toNat_pageStop hlength page
  have hbounds : pageStart page ≤ pageStop page sorted := by
    rw [UInt64.le_iff_toNat_le, hstart, hstop]
    omega
  have hle : (pageStop page sorted).toNat ≤ sorted.length := by
    rw [hstop]
    exact Nat.min_le_right _ _
  rw [part?, if_pos ⟨hbounds, hle⟩, List.drop_take, hstart, hstop]
  refine congrArg some (List.take_eq_take_iff.2 ?_)
  rw [List.length_drop]
  omega

/-- A page behind the listing has the bounds of no part of it, or of an empty one. -/
theorem part?_of_le (h : sorted.length ≤ 10 * (max page.toNat 1 - 1)) :
    part? (pageStart page) (pageStop page sorted) sorted = none ∨
      part? (pageStart page) (pageStop page sorted) sorted = some [] := by
  have hstart : sorted.length ≤ (pageStart page).toNat := by
    rw [toNat_pageStart]
    omega
  unfold part?
  split
  · refine .inr (congrArg some (List.drop_eq_nil_of_le ?_))
    exact (List.length_take_le' _ _).trans hstart
  · exact .inl rfl

/-- A page shows ten items from its place on, or as many as there are. -/
theorem pageOf_eq_take_drop :
    pageOf page sorted = (sorted.drop (10 * (max page.toNat 1 - 1))).take 10 := by
  by_cases h : 10 * (max page.toNat 1 - 1) < sorted.length
  · rw [pageOf, part?_of_lt hlength page h, Option.getD_some]
  · have hle : sorted.length ≤ 10 * (max page.toNat 1 - 1) := Nat.le_of_not_lt h
    rw [List.drop_eq_nil_of_le hle, List.take_nil, pageOf]
    obtain hnone | hempty := part?_of_le hlength page hle
    · rw [hnone, Option.getD_none]
    · rw [hempty, Option.getD_some]

theorem hasNextPage_iff : hasNextPage page sorted = true ↔ 10 * max page.toNat 1 < sorted.length := by
  have hstop := toNat_pageStop hlength page
  rw [hasNextPage, decide_eq_true_iff, UInt64.lt_iff_toNat_lt, hstop, toNat_ofNat_length hlength]
  omega

/-! ## One page after the other -/

omit hlength in
theorem max_toNat_ofNat {p : Nat} (hpos : 1 ≤ p) (hp : p < UInt64.size) :
    max (UInt64.ofNat p).toNat 1 = p := by
  have hp' : (UInt64.ofNat p).toNat = p := UInt64.toNat_ofNat_of_lt' hp
  omega

/-- The first pages together show as many items as fit on them. -/
theorem flatMap_pageOf {n : Nat} (hn : n < UInt64.size) :
    ((List.range' 1 n).flatMap fun p => pageOf (.ofNat p) sorted) = sorted.take (10 * n) := by
  induction n with
  | zero => rfl
  | succ n ih =>
    have hnumber : max (UInt64.ofNat (1 + n)).toNat 1 = 1 + n := max_toNat_ofNat (by omega) (by omega)
    rw [List.range'_1_concat, List.flatMap_append, ih (by omega), List.flatMap_singleton,
      pageOf_eq_take_drop hlength, hnumber, Nat.add_sub_cancel_left, ← List.take_add]
    exact congrArg (sorted.take ·) (Nat.mul_succ 10 n).symm

/-- The number of the last page: the first page is there even if it is empty. -/
def lastPage (n : Nat) : Nat := max ((n + 9) / 10) 1

/-- The pages of `n` items in order. Up to the first page without a next one they show each item
once, and every number of a page has an answer. -/
structure PagesOf (n : Nat) (sorted : List Item) (now : Instant) : Prop where
  exists_last : ∃ last, 1 ≤ last ∧ last < UInt64.size ∧
    (∀ p, 1 ≤ p → p < last → (Page.ofSorted sorted (.ofNat p) now).hasNextPage = true) ∧
    (Page.ofSorted sorted (.ofNat last) now).hasNextPage = false ∧
    ((List.range' 1 last).flatMap fun p => (Page.ofSorted sorted (.ofNat p) now).rows)
      = sorted.map (Row.summary · now)
  hasNextPage_iff : ∀ page,
    (Page.ofSorted sorted page now).hasNextPage = true ↔ 10 * max page.toNat 1 < n
  rows_behind : ∀ page, n ≤ 10 * (max page.toNat 1 - 1) → (Page.ofSorted sorted page now).rows = []
  zero_eq_one : Page.ofSorted sorted 0 now = Page.ofSorted sorted 1 now
  /-- One can be taken from the number of a page. -/
  one_le_number : ∀ page, 1 ≤ pageNumber page
  toNat_start : ∀ page,
    (pageStart page).toNat = min (10 * (max page.toNat 1 - 1)) (UInt64.size - 1)
  toNat_stop : ∀ page, (pageStop page sorted).toNat = min (10 * max page.toNat 1) n
  /-- The bounds are those of a part of the listing unless the page is behind it. -/
  part_eq : ∀ page, 10 * (max page.toNat 1 - 1) < n →
    part? (pageStart page) (pageStop page sorted) sorted = some (pageOf page sorted)

theorem pagesOf (now : Instant) : PagesOf sorted.length sorted now where
  exists_last := by
    have hlast : 1 ≤ lastPage sorted.length := Nat.le_max_right _ _
    have hbits : UInt64.size = 2 ^ 64 := rfl
    have hsize : lastPage sorted.length < UInt64.size := by
      unfold lastPage
      omega
    refine ⟨lastPage sorted.length, hlast, hsize, fun p hpos hp => ?_, ?_, ?_⟩
    · refine (hasNextPage_iff hlength _).2 ?_
      rw [max_toNat_ofNat hpos (by omega)]
      unfold lastPage at hp
      omega
    · refine Bool.eq_false_iff.2 fun hnext => ?_
      have hmore := (hasNextPage_iff hlength _).1 hnext
      rw [max_toNat_ofNat hlast hsize] at hmore
      unfold lastPage at hmore
      omega
    · have hall : sorted.length ≤ 10 * lastPage sorted.length := by
        unfold lastPage
        omega
      have hrows : ∀ p, (Page.ofSorted sorted (.ofNat p) now).rows
          = (pageOf (.ofNat p) sorted).map (Row.summary · now) := fun _ => rfl
      simp only [hrows]
      rw [← List.map_flatMap, flatMap_pageOf hlength hsize, List.take_of_length_le hall]
  hasNextPage_iff page := hasNextPage_iff hlength page
  rows_behind page h := by
    show (pageOf page sorted).map _ = []
    rw [pageOf_eq_take_drop hlength, List.drop_eq_nil_of_le h, List.take_nil, List.map_nil]
  zero_eq_one := rfl
  one_le_number page := by
    rw [UInt64.le_iff_toNat_le, toNat_pageNumber]
    exact Nat.le_max_right _ _
  toNat_start := toNat_pageStart
  toNat_stop := toNat_pageStop hlength
  part_eq page h := by
    rw [part?_of_lt hlength page h, pageOf_eq_take_drop hlength]

end

/-- A listing of items compares them by a total preorder and shows them sorted by it, those that
compare equal in the order in which they were published. The answers up to the first one without a
next page show each title once, and no number of a page is out of bounds. -/
theorem Inventory.listing_shows_each_title_once {μ τ ρ : Type} (b : Backends μ τ ρ) (now : Instant)
    {s : Inventory μ τ ρ} {items : List Item} (hitems : s.items = some items)
    (hlength : items.length < UInt64.size) (sorting : Sorting) :
    (∀ page, s.list b now page sorting
      = (.ok (.ofSorted (sorting.apply Text.lowercase items) page now), s)) ∧
    ∀ lower, Std.TransCmp (sorting.compare lower) ∧
      IsStableSort (sorting.compare lower) items (sorting.apply lower items) ∧
      (sorting.key = .unknown → sorting.apply lower items = items) ∧
      PagesOf items.length (sorting.apply lower items) now := by
  refine ⟨fun page => ?_, fun lower => ?_⟩
  · simp only [Inventory.list, Inventory.populated, hitems]
    rfl
  · have hsort := isStableSort_apply lower sorting items
    have hsame : (sorting.apply lower items).length = items.length := hsort.perm.length_eq
    have hpages := pagesOf (hsame.symm ▸ hlength) now
    rw [hsame] at hpages
    exact ⟨transCmp_compare lower sorting, hsort, fun hkey => apply_of_unknown lower hkey items,
      hpages⟩

/-! ## A listing of eleven titles -/

namespace Sample

/-- Eleven titles without files, all of one size. -/
def eleven : List Item :=
  (List.range 11).map fun n => rules.item ⟨0, 0⟩ ⟨⟨.ofNat n, .movie, "Alpha", "", ⟨0, 0⟩⟩, []⟩

def listed : Inventory StandInLibrary StandInClient Trackers := { inventory with items := some eleven }

end Sample

open Sample in
theorem two_pages_of_eleven_titles :
    listed.items = some eleven ∧ eleven.length < UInt64.size ∧
    ∃ first second, listed.list backends ⟨0, 0⟩ 0 ⟨.size, .descending⟩ = (.ok first, listed) ∧
      listed.list backends ⟨0, 0⟩ 2 ⟨.size, .descending⟩ = (.ok second, listed) ∧
      first.hasNextPage = true ∧ second.hasNextPage = false := by
  have hitems : listed.items = some eleven := rfl
  have hlength : eleven.length < UInt64.size := by decide
  obtain ⟨hlist, hpages⟩ :=
    Inventory.listing_shows_each_title_once backends ⟨0, 0⟩ hitems hlength ⟨.size, .descending⟩
  obtain ⟨-, -, -, hpages⟩ := hpages Text.lowercase
  refine ⟨hitems, hlength, _, _, hlist 0, hlist 2, (hpages.hasNextPage_iff 0).2 (by decide), ?_⟩
  exact Bool.eq_false_iff.2 fun hnext => absurd ((hpages.hasNextPage_iff 2).1 hnext) (by decide)

end SeedCleanup

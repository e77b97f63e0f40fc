import SeedCleanup.Proofs.ItemTheorems
import SeedCleanup.Proofs.ListingTheorems
import SeedCleanup.Torrent.Deluge

/-!
# The order of the torrents of a daemon

A daemon tells its torrents under their hashes in no order. They are listed by the time since which
they seed and, at the same time, by their numbers. Different torrents have different numbers, so
that no two of them are tied and the order in which they were told does not show
(`torrents_listed_whatever_the_order`).
-/

namespace SeedCleanup

namespace Instant

instance : Std.LawfulEqOrd Instant where
  eq_of_compare := by
    intro a b h
    obtain ⟨hsecond, hnano⟩ := Ordering.then_eq_eq.1 h
    obtain ⟨second, nano⟩ := a
    obtain ⟨second', nano'⟩ := b
    obtain rfl : second = second' := Std.LawfulEqOrd.eq_of_compare hsecond
    obtain rfl : nano = nano' := Std.LawfulEqOrd.eq_of_compare hnano
    rfl

theorem le_of_compare_eq_lt {a b : Instant} (h : compare a b = .lt) : a ≤ b := by
  obtain hsecond | ⟨hsecond, hnano⟩ := Ordering.then_eq_lt.1 h
  · exact .inl (compare_lt_iff_lt.1 hsecond)
  · exact .inr ⟨Std.LawfulEqOrd.eq_of_compare hsecond, Nat.le_of_lt (compare_lt_iff_lt.1 hnano)⟩

theorem le_antisymm {a b : Instant} (hab : a ≤ b) (hba : b ≤ a) : a = b := by
  obtain ⟨second, nano⟩ := a
  obtain ⟨second', nano'⟩ := b
  rw [le_iff] at hab hba
  simp only [mk.injEq] at *
  omega

end Instant

namespace Deluge

/-! ## Torrents that are not tied -/

/-- A torrent stands before another one: it was added no later, and at the same time it has the
lesser number. -/
def Precedes (a b : Torrent) : Prop := a.added ≤ b.added ∧ (a.added = b.added → a.id < b.id)

theorem not_precedes_of_precedes {a b : Torrent} (hab : Precedes a b) : ¬Precedes b a := by
  intro hba
  have hadded : a.added = b.added := Instant.le_antisymm hab.1 hba.1
  exact String.lt_asymm (hab.2 hadded) (hba.2 hadded.symm)

/-- Torrents with different numbers are not tied. -/
theorem precedes_of_isBefore {a b : Torrent} (h : isBefore a b = true) (hne : a.id ≠ b.id) :
    Precedes a b := by
  have hle : (compare a.added b.added).then (compare a.id b.id) ≠ .gt := bne_iff_ne.1 h
  cases hadded : compare a.added b.added with
  | lt =>
    refine ⟨Instant.le_of_compare_eq_lt hadded, fun heq => ?_⟩
    rw [heq, Std.compare_self] at hadded
    cases hadded
  | eq =>
    have heq : a.added = b.added := Std.LawfulEqOrd.eq_of_compare hadded
    rw [hadded, Ordering.eq_then] at hle
    refine ⟨heq ▸ Instant.le_rfl, fun _ => ?_⟩
    cases hid : compare a.id b.id with
    | lt => exact compareOfLessAndEq_eq_lt.1 hid
    | eq => exact absurd (Std.LawfulEqOrd.eq_of_compare hid) hne
    | gt => exact absurd hid hle
  | gt => exact absurd (by rw [hadded]; rfl) hle

/-- In torrents with different numbers only one order is possible. -/
theorem eq_of_perm_of_pairwise_precedes {l l' : List Torrent} (h : l.Pairwise Precedes)
    (h' : l'.Pairwise Precedes) (hperm : l.Perm l') : l = l' :=
  hperm.eq_of_pairwise (fun _ _ _ _ hab hba => absurd hba (not_precedes_of_precedes hab)) h h'

/-! ## Listing -/

/-- What a daemon tells as torrents, in the order in which it does. -/
def told (client : String) (statuses : List (String × Status)) : List Torrent :=
  statuses.map fun s => s.2.torrent client s.1

theorem map_id_told (client : String) (statuses : List (String × Status)) :
    (told client statuses).map (·.id) = statuses.map fun s => Text.lowercase s.1 :=
  List.map_map

theorem pairwise_isBefore_torrentsOf (client : String) (statuses : List (String × Status)) :
    (torrentsOf client statuses).Pairwise fun a b => isBefore a b = true := by
  have htrans : Std.TransCmp fun a b : Torrent =>
      (compare a.added b.added).then (compare a.id b.id) :=
    inferInstanceAs (Std.TransCmp (compareLex (compareOn Torrent.added) (compareOn Torrent.id)))
  exact List.pairwise_mergeSort (ne_gt_trans _) (ne_gt_total _) _

theorem pairwise_precedes_torrentsOf {client : String} {statuses : List (String × Status)}
    (h : (statuses.map fun s => Text.lowercase s.1).Nodup) :
    (torrentsOf client statuses).Pairwise Precedes := by
  have hperm : (torrentsOf client statuses).Perm (told client statuses) := List.mergeSort_perm _ _
  have hids : ((torrentsOf client statuses).map (·.id)).Nodup := by
    rw [(hperm.map (·.id)).nodup_iff, map_id_told]
    exact h
  have hne : (torrentsOf client statuses).Pairwise fun a b => a.id ≠ b.id :=
    List.pairwise_map.1 hids
  exact (pairwise_isBefore_torrentsOf client statuses).imp₂ (fun _ _ => precedes_of_isBefore) hne

/-- Torrents whose hashes differ in lower case are listed in one way, in whatever order a daemon
tells them: each once, by the time since which it seeds and then by its number, and no two of them
are tied. -/
theorem torrents_listed_whatever_the_order (client : String)
    {statuses statuses' : List (String × Status)} (hperm : statuses.Perm statuses')
    (hdistinct : (statuses.map fun s => Text.lowercase s.1).Nodup) :
    torrentsOf client statuses = torrentsOf client statuses' ∧
      (torrentsOf client statuses).Perm (statuses.map fun s => s.2.torrent client s.1) ∧
      (torrentsOf client statuses).Pairwise Precedes := by
  have hdistinct' : (statuses'.map fun s => Text.lowercase s.1).Nodup :=
    (hperm.map _).nodup_iff.1 hdistinct
  have hlisted : (torrentsOf client statuses).Perm (told client statuses) := List.mergeSort_perm _ _
  have hlisted' : (torrentsOf client statuses').Perm (told client statuses') :=
    List.mergeSort_perm _ _
  have htold : (told client statuses).Perm (told client statuses') := hperm.map _
  refine ⟨?_, hlisted, pairwise_precedes_torrentsOf hdistinct⟩
  exact eq_of_perm_of_pairwise_precedes (pairwise_precedes_torrentsOf hdistinct)
    (pairwise_precedes_torrentsOf hdistinct') ((hlisted.trans htold).trans hlisted'.symm)

end Deluge

/-! ## Two torrents of one second -/

namespace Sample

/-- A torrent that was completed at a time. -/
def completedAt (name : String) (seconds : Binary64) : Deluge.Status :=
  ⟨name, .ofNat 1, seconds, .zero, "", []⟩

def oldest : String × Deluge.Status := ("CC", completedAt "oldest" .zero)

/-- Completed a tenth of a second after the second began. -/
def early : String × Deluge.Status :=
  ("BB", completedAt "early" (.ofDecimal false 17040672001 (-1)))

/-- Completed in the same second, but at its end. -/
def late : String × Deluge.Status :=
  ("aa", completedAt "late" (.ofDecimal false 17040672009 (-1)))

end Sample

open Sample in
theorem same_second_listed_by_number :
    Deluge.torrentsOf "daemon" [early, late, oldest]
      = [oldest.2.torrent "daemon" "CC", late.2.torrent "daemon" "aa",
          early.2.torrent "daemon" "BB"] ∧
    (Deluge.torrentsOf "daemon" [early, late, oldest]).Pairwise Deluge.Precedes := by
  have hdistinct : ([early, late, oldest].map fun s => Text.lowercase s.1).Nodup := by
    decide +kernel
  have hperm : [early, late, oldest].Perm [oldest, late, early] :=
    (List.reverse_perm [early, late, oldest]).symm
  obtain ⟨hsame, -, hprecedes⟩ :=
    Deluge.torrents_listed_whatever_the_order "daemon" hperm hdistinct
  have hsorted : ([oldest, late, early].map fun s => s.2.torrent "daemon" s.1).Pairwise
      fun a b => Deluge.isBefore a b = true := by decide +kernel
  exact ⟨hsame.trans (List.mergeSort_of_pairwise hsorted), hprecedes⟩

end SeedCleanup

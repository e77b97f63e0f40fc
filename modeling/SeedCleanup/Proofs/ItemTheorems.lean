import Mathlib.Data.List.Forall2
import Mathlib.Order.Bounds.Defs
import SeedCleanup.Inventory.Deletion
import SeedCleanup.Proofs.RetentionTheorems

/-!
# What an item derives from its files

Size, added time and report of an item follow from its linked title and from the verdicts on its
files (`Item.Coherent`). Items are coherent when they are evaluated, and taking files out of them
keeps them so.
-/

namespace SeedCleanup

/-! ## Sizes -/

/-- How many bytes some files take. -/
def bytesOf : List LinkedFile → Nat
  | [] => 0
  | f :: rest => f.file.size.toNat + bytesOf rest

theorem bytesOf_append_singleton (files : List LinkedFile) (f : LinkedFile) :
    bytesOf (files ++ [f]) = bytesOf files + f.file.size.toNat := by
  induction files with
  | nil => exact Nat.add_comm _ _
  | cons g rest ih => rw [List.cons_append, bytesOf, ih, bytesOf, Nat.add_assoc]

theorem bytesOf_le_of_sublist {files files' : List LinkedFile} (h : files.Sublist files') :
    bytesOf files ≤ bytesOf files' := by
  induction h with
  | slnil => exact Nat.le_refl _
  | cons f _ ih => exact Nat.le_trans ih (Nat.le_add_left _ _)
  | cons_cons f _ ih => exact Nat.add_le_add_left ih _

theorem toNat_foldl_size (files : List LinkedFile) (n : UInt64) :
    (files.foldl (fun n f => n + f.file.size) n).toNat
      = (n.toNat + bytesOf files) % UInt64.size := by
  induction files generalizing n with
  | nil => exact (Nat.mod_eq_of_lt n.toNat_lt).symm
  | cons f rest ih =>
    have hadd : (n + f.file.size).toNat = (n.toNat + f.file.size.toNat) % UInt64.size :=
      UInt64.toNat_add _ _
    rw [List.foldl_cons, ih, hadd, Nat.mod_add_mod, bytesOf, Nat.add_assoc]

/-- The size of files is the sum of their sizes, as far as that can be told in 64 bits. -/
theorem toNat_totalSize {files : List LinkedFile} (h : bytesOf files < UInt64.size) :
    (totalSize files).toNat = bytesOf files := by
  rw [totalSize, toNat_foldl_size, UInt64.toNat_zero, Nat.zero_add, Nat.mod_eq_of_lt h]

/-! ## Added times -/

namespace Instant

theorem le_iff {a b : Instant} :
    a ≤ b ↔ a.second < b.second ∨ a.second = b.second ∧ a.nano ≤ b.nano := Iff.rfl

theorem le_rfl {a : Instant} : a ≤ a := by
  rw [le_iff]
  omega

theorem le_trans {a b c : Instant} (hab : a ≤ b) (hbc : b ≤ c) : a ≤ c := by
  rw [le_iff] at *
  omega

theorem le_of_not_ge {a b : Instant} (h : ¬a ≤ b) : b ≤ a := by
  rw [le_iff] at *
  omega

theorem isGreatest_max (a b : Instant) : IsGreatest {a, b} (a.max b) := by
  unfold max
  split
  · rename_i h
    refine ⟨.inr rfl, ?_⟩
    rintro t (rfl | rfl)
    · exact h
    · exact le_rfl
  · rename_i h
    refine ⟨.inl rfl, ?_⟩
    rintro t (rfl | rfl)
    · exact le_rfl
    · exact le_of_not_ge h

/-- Taking the maximum along a list gives the latest of its instants. -/
theorem isGreatest_foldl_max (start : Instant) (times : List Instant) :
    IsGreatest {t | t = start ∨ t ∈ times} (times.foldl max start) := by
  induction times generalizing start with
  | nil =>
    refine ⟨.inl rfl, ?_⟩
    rintro t (rfl | h)
    · exact le_rfl
    · cases h
  | cons u rest ih =>
    -- the rest is folded from the later of the start and the first instant
    obtain ⟨hmem, hle⟩ := ih (start.max u)
    obtain ⟨hmax, hbound⟩ := isGreatest_max start u
    rw [List.foldl_cons]
    constructor
    · rcases hmem with heq | hrest
      · rw [heq]
        rcases hmax with h | h
        · exact .inl h
        · rw [show start.max u = u from h]
          exact .inr List.mem_cons_self
      · exact .inr (List.mem_cons_of_mem _ hrest)
    · have hstart : start.max u ≤ rest.foldl max (start.max u) := hle (.inl rfl)
      rintro t (rfl | h)
      · exact le_trans (hbound (.inl rfl)) hstart
      · rcases List.mem_cons.1 h with rfl | h
        · exact le_trans (hbound (.inr rfl)) hstart
        · exact hle (.inr h)

end Instant

/-- The times at which a title and the torrents of its files were added. -/
def LinkedTitle.addedTimes (media : LinkedTitle) : Set Instant :=
  {t | t = media.title.added ∨
    ∃ f ∈ media.files, ∃ torrent, f.torrent = some torrent ∧ torrent.added = t}

theorem LinkedTitle.isGreatest_latestAdded (media : LinkedTitle) :
    IsGreatest media.addedTimes media.latestAdded := by
  have htimes : media.addedTimes
      = {t | t = media.title.added ∨
          t ∈ media.files.filterMap fun f => f.torrent.map (·.added)} := by
    ext t
    show _ ∨ _ ↔ _ ∨ t ∈ List.filterMap _ _
    simp only [List.mem_filterMap, Option.map_eq_some_iff]
  rw [htimes]
  exact Instant.isGreatest_foldl_max _ _

/-! ## Coherent items -/

namespace Item

/-- Whatever an item says besides its linked title and the verdicts on its files follows from
these, and there is a verdict for every file and for nothing else. -/
structure Coherent (item : Item) : Prop where
  files_ne_nil : item.linked.files ≠ []
  size_eq : bytesOf item.linked.files < UInt64.size → item.size.toNat = bytesOf item.linked.files
  added_eq : IsGreatest item.linked.addedTimes item.added
  mem_keys_iff : ∀ id, id ∈ item.report.files.keys ↔ ∃ f ∈ item.linked.files, f.file.id = id
  report_eq : item.report = .ofFiles item.linked item.report.files

theorem coherent_of {linked : LinkedTitle} {verdicts : SortedTable Int64 Verdict}
    (hfiles : linked.files ≠ [])
    (hkeys : ∀ id, id ∈ verdicts.keys ↔ ∃ f ∈ linked.files, f.file.id = id) :
    (Item.of linked (.ofFiles linked verdicts)).Coherent where
  files_ne_nil := hfiles
  size_eq := toNat_totalSize
  added_eq := linked.isGreatest_latestAdded
  mem_keys_iff := hkeys
  report_eq := rfl

/-- There is a verdict on every file of a coherent item. -/
theorem Coherent.exists_verdict {item : Item} (h : item.Coherent) {f : LinkedFile}
    (hf : f ∈ item.linked.files) : ∃ v, item.report.files.get? f.file.id = some v := by
  have hkey : f.file.id ∈ item.report.files.keys := (h.mem_keys_iff _).2 ⟨f, hf, rfl⟩
  exact Option.isSome_iff_exists.1 (SortedTable.mem_keys_iff.1 hkey)

/-- Without some of its files, but not without all of them, an item stays coherent. -/
theorem Coherent.withoutFiles {item : Item} (h : item.Coherent) {remove : MediaFile → Bool}
    (hrest : ∃ f ∈ item.linked.files, remove f.file = false) :
    (item.withoutFiles remove).Coherent := by
  refine coherent_of ?_ fun id => ?_
  · obtain ⟨f, hf, hkept⟩ := hrest
    refine List.ne_nil_of_mem (List.mem_filter.2 ⟨hf, ?_⟩)
    rw [hkept]
    rfl
  · rw [SortedTable.mem_keys_iff, SortedTable.get?_filter]
    constructor
    · intro hsome
      obtain ⟨v, hv⟩ := Option.isSome_iff_exists.1 hsome
      obtain ⟨-, hany⟩ := Option.filter_eq_some_iff.1 hv
      obtain ⟨f, hf, hid⟩ := List.any_eq_true.1 hany
      exact ⟨f, hf, eq_of_beq hid⟩
    · rintro ⟨f, hf, rfl⟩
      -- the verdict on a file that stays passes the filter
      obtain ⟨v, hv⟩ := h.exists_verdict (List.mem_filter.1 hf).1
      refine Option.isSome_iff_exists.2 ⟨v, Option.filter_eq_some_iff.2 ⟨hv, ?_⟩⟩
      exact List.any_eq_true.2 ⟨f, hf, beq_self_eq_true _⟩

section

variable {σ : Type} {r : TrackerResolver σ} {now : Instant}

/-- The report of an evaluation has the verdicts on exactly the files. -/
theorem evaluate_cases {media : LinkedTitle} {report : Report} {s s' : σ}
    (h : media.evaluate r now s = (.ok report, s')) :
    ∃ verdicts : SortedTable Int64 Verdict,
      (∀ id, id ∈ verdicts.keys ↔ ∃ f ∈ media.files, f.file.id = id) ∧
        report = .ofFiles media verdicts := by
  unfold LinkedTitle.evaluate at h
  split at h
  · cases h
  · rename_i verdicts s' hverdicts
    cases h
    refine ⟨.ofList verdicts, fun id => ?_, rfl⟩
    rw [SortedTable.mem_keys_iff, SortedTable.isSome_get?_ofList]
    have hids : (∃ v, (id, v) ∈ verdicts) ↔ id ∈ verdicts.map (·.1) := by simp
    rw [hids, keys_of_verdictsOfFiles hverdicts, List.mem_map]

/-- Evaluated titles become coherent items, in order. -/
theorem coherent_of_ofLinked {linked : List LinkedTitle}
    (hfiles : ∀ media ∈ linked, media.files ≠ []) {items : List Item} {s s' : σ}
    (h : ofLinked r now linked s = (.ok items, s')) :
    items.map (·.linked) = linked ∧ ∀ item ∈ items, item.Coherent := by
  induction linked generalizing items s with
  | nil =>
    cases h
    exact ⟨rfl, by simp⟩
  | cons media rest ih =>
    obtain ⟨hmedia, hrest⟩ := List.forall_mem_cons.1 hfiles
    unfold ofLinked at h
    split at h
    · cases h
    · rename_i report s₁ hreport
      split at h
      · cases h
      · rename_i items' s₂ hitems
        cases h
        obtain ⟨verdicts, hkeys, rfl⟩ := evaluate_cases hreport
        obtain ⟨hlinked, hcoherent⟩ := ih hrest hitems
        rw [List.map_cons, hlinked, List.forall_mem_cons]
        exact ⟨rfl, coherent_of hmedia hkeys, hcoherent⟩

/-- The items are made of the linked titles. -/
theorem map_linked_of_ofLinked {linked : List LinkedTitle} {items : List Item} {s s' : σ}
    (h : ofLinked r now linked s = (.ok items, s')) : items.map (·.linked) = linked := by
  induction linked generalizing items s s' with
  | nil =>
    obtain rfl : [] = items := Except.ok.inj (Prod.mk.inj h).1
    rfl
  | cons media rest ih =>
    unfold ofLinked at h
    split at h
    · exact nomatch (Prod.mk.inj h).1
    · rename_i report s₁ hreport
      split at h
      · exact nomatch (Prod.mk.inj h).1
      · rename_i items' s₂ hitems
        obtain rfl := Except.ok.inj (Prod.mk.inj h).1
        rw [List.map_cons, ih hitems]
        rfl

end

/-! ## Taking files out of items -/

/-- What is left of an item after deletions: the same title with some of the files, in order. -/
structure RemainsOf (item whole : Item) : Prop where
  title_eq : item.linked.title = whole.linked.title
  sublist : item.linked.files.Sublist whole.linked.files

instance : Std.Refl RemainsOf := ⟨fun _ => ⟨rfl, List.Sublist.refl _⟩⟩

instance : IsTrans Item RemainsOf where
  trans _ _ _ hab hbc := ⟨hab.title_eq.trans hbc.title_eq, hab.sublist.trans hbc.sublist⟩

theorem remainsOf_withoutFiles (item : Item) (remove : MediaFile → Bool) :
    (item.withoutFiles remove).RemainsOf item := ⟨rfl, List.filter_sublist⟩

end Item

/-- A deletion keeps all items coherent. -/
theorem coherent_withoutSelected (id : MediaId) {items : List Item}
    (h : ∀ item ∈ items, item.Coherent) : ∀ item ∈ withoutSelected id items, item.Coherent := by
  induction items with
  | nil => simp [withoutSelected]
  | cons item rest ih =>
    obtain ⟨hitem, hrest⟩ := List.forall_mem_cons.1 h
    unfold withoutSelected
    split
    · split
      · exact hrest
      · rename_i hlength
        rw [List.forall_mem_cons]
        refine ⟨hitem.withoutFiles ?_, hrest⟩
        -- an item that keeps a file is not emptied
        by_contra hall
        apply hlength
        rw [Item.selected, List.length_filter_eq_length_iff]
        intro f hf
        by_contra hnot
        exact hall ⟨f, hf, by simpa using hnot⟩
    · rw [List.forall_mem_cons]
      exact ⟨hitem, ih hrest⟩

/-- A deletion only takes titles and files away. -/
theorem sublistForall₂_withoutSelected (id : MediaId) (items : List Item) :
    List.SublistForall₂ Item.RemainsOf (withoutSelected id items) items := by
  induction items with
  | nil => exact .nil
  | cons item rest ih =>
    unfold withoutSelected
    split
    · split
      · exact .cons_right (refl rest)
      · exact .cons (item.remainsOf_withoutFiles _) (refl rest)
    · exact .cons (refl item) ih

end SeedCleanup

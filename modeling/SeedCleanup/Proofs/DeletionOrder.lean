import Mathlib.Data.List.Perm.Basic
import SeedCleanup.Proofs.DeletionProtocol
import SeedCleanup.Proofs.MediaIdTheorems
import SeedCleanup.Proofs.RemovalTheorems
import SeedCleanup.Proofs.RowTheorems

/-!
# The order of deletions

If no two items have one key, a deletion takes each item by itself (`withoutSelected_eq_filterMap`).
So deletions commute, and deleting the files of a title one after the other leaves what deleting the
title at once would leave.
-/

namespace SeedCleanup

/-! ## What two deletions leave of an item -/

namespace Item

variable (item : Item)

/-- What is left of an item without some of its files; nothing if no file is left. -/
def rest? (remove : MediaFile → Bool) : Option Item :=
  if item.linked.files.all fun f => remove f.file then none else some (item.withoutFiles remove)

theorem remainder?_eq_rest? (id : MediaId) : item.remainder? id = item.rest? id.selects := rfl

theorem rest?_of_eq_nil {item : Item} {remove : MediaFile → Bool}
    (h : (item.withoutFiles remove).linked.files = []) : item.rest? remove = none := by
  refine if_pos (List.all_eq_true.2 fun f hf => ?_)
  simpa using List.filter_eq_nil_iff.1 h f hf

theorem rest?_of_mem {item : Item} {remove : MediaFile → Bool} {f : LinkedFile}
    (h : f ∈ (item.withoutFiles remove).linked.files) :
    item.rest? remove = some (item.withoutFiles remove) := by
  obtain ⟨hf, hkept⟩ := List.mem_filter.1 h
  refine if_neg fun hall => ?_
  rw [List.all_eq_true.1 hall f hf] at hkept
  cases hkept

/-- What is left after two steps is what is left without the files of both. -/
theorem rest?_bind (p q : MediaFile → Bool) :
    (item.rest? p).bind (·.rest? q) = item.rest? fun f => p f || q f := by
  by_cases hp : (item.linked.files.all fun f => p f.file) = true
  · have hboth : (item.linked.files.all fun f => p f.file || q f.file) = true := by
      rw [List.all_eq_true] at hp ⊢
      intro f hf
      rw [hp f hf, Bool.true_or]
    rw [rest?, if_pos hp, rest?, if_pos hboth, Option.bind_none]
  · have hall : ((item.withoutFiles p).linked.files.all fun f => q f.file)
        = item.linked.files.all fun f => p f.file || q f.file := by
      show (List.filter _ item.linked.files).all _ = _
      rw [List.all_filter]
      simp only [Bool.not_not]
    rw [rest?, if_neg hp, Option.bind_some, rest?, hall, withoutFiles_withoutFiles, rest?]

/-- What a deletion leaves of an item; items of other keys than that of the id stay as they are. -/
def left? (id : MediaId) : Option Item :=
  if item.linked.title.key = id.titleKey then item.rest? id.selects else some item

variable {item} {id a b : MediaId}

theorem left?_of_eq (h : item.linked.title.key = id.titleKey) :
    item.left? id = item.rest? id.selects := if_pos h

theorem left?_of_ne (h : item.linked.title.key ≠ id.titleKey) : item.left? id = some item :=
  if_neg h

theorem key_of_left? {rest : Item} (h : item.left? id = some rest) :
    rest.linked.title.key = item.linked.title.key := by
  unfold left? rest? at h
  split at h
  · split at h
    · cases h
    · cases h
      rfl
  · cases h
    rfl

/-- Two deletions from one item take out the files of both. -/
theorem left?_bind_of_eq (ha : item.linked.title.key = a.titleKey)
    (hb : item.linked.title.key = b.titleKey) :
    (item.left? a).bind (·.left? b) = item.rest? fun f => a.selects f || b.selects f := by
  rw [← rest?_bind, ← left?_of_eq ha]
  refine Option.bind_congr fun rest hrest => ?_
  exact left?_of_eq ((key_of_left? hrest).trans hb)

theorem left?_bind_of_ne (hb : item.linked.title.key ≠ b.titleKey) :
    (item.left? a).bind (·.left? b) = item.left? a := by
  have hkept : ∀ rest, item.left? a = some rest → rest.left? b = some rest := by
    intro rest hrest
    refine left?_of_ne ?_
    rw [key_of_left? hrest]
    exact hb
  rw [Option.bind_congr hkept, Option.bind_fun_some]

variable (item a b)

theorem left?_comm : (item.left? a).bind (·.left? b) = (item.left? b).bind (·.left? a) := by
  by_cases ha : item.linked.title.key = a.titleKey
  · by_cases hb : item.linked.title.key = b.titleKey
    · rw [left?_bind_of_eq ha hb, left?_bind_of_eq hb ha]
      simp only [Bool.or_comm]
    · rw [left?_bind_of_ne hb, left?_of_ne hb, Option.bind_some]
  · rw [left?_bind_of_ne ha, left?_of_ne ha, Option.bind_some]

end Item

/-! ## What two deletions leave of all items -/

/-- The keys by which requests address items. -/
def itemKeys (items : List Item) : List (MediaKind × Int64) := items.map (·.linked.title.key)

theorem key_ne_of_nodup {before after : List Item} {item : Item}
    (h : (itemKeys (before ++ item :: after)).Nodup) :
    ∀ x ∈ before, x.linked.title.key ≠ item.linked.title.key := by
  intro x hx
  rw [itemKeys, List.map_append, List.map_cons, List.nodup_append] at h
  exact h.2.2 _ (List.mem_map_of_mem hx) _ List.mem_cons_self

/-- If no two items have one key, a deletion takes each item by itself. -/
theorem withoutSelected_eq_filterMap (id : MediaId) {items : List Item}
    (hkeys : (itemKeys items).Nodup) :
    withoutSelected id items = items.filterMap (·.left? id) := by
  induction items with
  | nil => rfl
  | cons item rest ih =>
    obtain ⟨hitem, hrest⟩ := List.nodup_cons.1 hkeys
    by_cases htitle : item.linked.title.key = id.titleKey
    · -- the deletion stops at this item, and no other one has its key
      have hothers : rest.filterMap (·.left? id) = rest := by
        have hkept : ∀ x ∈ rest, x.left? id = some x := by
          intro x hx
          refine Item.left?_of_ne fun hkey => hitem ?_
          exact List.mem_map.2 ⟨x, hx, hkey.trans htitle.symm⟩
        rw [List.filterMap_congr hkept, List.filterMap_some]
      have hnone : ∀ x ∈ ([] : List Item), x.linked.title.key ≠ id.titleKey := by
        intro x hx
        cases hx
      have hfirst : withoutSelected id (item :: rest)
          = (item.remainder? id).toList ++ rest := withoutSelected_append_cons htitle hnone
      rw [hfirst, Item.remainder?_eq_rest?, List.filterMap_cons, hothers, Item.left?_of_eq htitle]
      cases item.rest? id.selects <;> rfl
    · rw [withoutSelected, if_neg (mt isTitle_iff.1 htitle), ih hrest, List.filterMap_cons,
        Item.left?_of_ne htitle]

theorem itemKeys_withoutSelected_sublist (id : MediaId) (items : List Item) :
    (itemKeys (withoutSelected id items)).Sublist (itemKeys items) := by
  induction items with
  | nil => exact List.Sublist.refl _
  | cons item rest ih =>
    unfold withoutSelected
    split
    · split
      · exact List.sublist_cons_self _ _
      · exact List.Sublist.refl _
    · exact ih.cons_cons _

/-- Deletions of what two ids name leave the same items in either order. -/
theorem withoutSelected_comm (a b : MediaId) {items : List Item} (hkeys : (itemKeys items).Nodup) :
    withoutSelected b (withoutSelected a items) = withoutSelected a (withoutSelected b items) := by
  have hafter (id : MediaId) : (itemKeys (withoutSelected id items)).Nodup :=
    hkeys.sublist (itemKeys_withoutSelected_sublist id items)
  rw [withoutSelected_eq_filterMap b (hafter a), withoutSelected_eq_filterMap a (hafter b),
    withoutSelected_eq_filterMap a hkeys, withoutSelected_eq_filterMap b hkeys,
    List.filterMap_filterMap, List.filterMap_filterMap]
  simp only [Item.left?_comm _ a b]

/-! ## Deletions whose calls do not fail -/

/-- An id addresses an item and names one of its files. -/
structure MediaId.NamesFile (id : MediaId) (item : Item) (f : LinkedFile) : Prop where
  key_eq : item.linked.title.key = id.titleKey
  mem : f ∈ item.linked.files
  selects : id.selects f.file = true

namespace Inventory

variable {μ τ ρ : Type} (b : Backends μ τ ρ)

/-- Delete what several ids name, one after the other, whatever the deletions answer. -/
def deleteEach : List String → Inventory μ τ ρ → List (Except InventoryError Unit) × Inventory μ τ ρ
  | [], s => ([], s)
  | text :: rest, s =>
    let (answer, s) := s.delete b text
    let (answers, s) := deleteEach rest s
    (answer :: answers, s)

/-- Every call of a deletion succeeds, or is about a torrent that is gone already. -/
def Unhindered (text : String) (s : Inventory μ τ ρ) : Prop :=
  ∀ id before item after, Selects text s id before item after →
    ∃ s', Follows b item.linked.title.name (deletionPlan id item) s (deletionPlan id item)
      (.ok ()) s'

/-- The same for deletions one after the other. -/
def UnhinderedEach : List String → Inventory μ τ ρ → Prop
  | [], _ => True
  | text :: rest, s => s.Unhindered b text ∧ UnhinderedEach rest (s.delete b text).2

variable {b} {s : Inventory μ τ ρ} {text : String} {id : MediaId} {items : List Item} {item : Item}

/-- If no two items have one key, an id of files of an item selects that item. -/
theorem exists_selects (hid : MediaId.parse text = some id) (hitems : s.items = some items)
    (hkeys : (itemKeys items).Nodup) (hitem : item ∈ items) {f : LinkedFile}
    (hf : id.NamesFile item f) : ∃ before after, Selects text s id before item after := by
  obtain ⟨before, after, rfl⟩ := List.append_of_mem hitem
  refine ⟨before, after, hid, hitems, hf.key_eq, fun x hx hkey => ?_, ?_⟩
  · exact key_ne_of_nodup hkeys x hx (hkey.trans hf.key_eq.symm)
  · exact List.ne_nil_of_mem (List.mem_filter.2 ⟨hf.mem, hf.selects⟩)

/-- A deletion that succeeds was not hindered. -/
theorem unhindered_of_ok (h : (s.delete b text).1 = .ok ()) : s.Unhindered b text := by
  intro id before item after hselects
  obtain ⟨made, result, s', hcalls⟩ : ∃ made result s',
      Follows b item.linked.title.name (deletionPlan id item) s made result s' :=
    exists_follows _ s
  rw [hselects.delete_eq, deleteSelected_of_follows hcalls] at h
  obtain rfl : result = .ok () := h
  obtain rfl : made = deletionPlan id item := hcalls.eq_of_ok
  exact ⟨s', hcalls⟩

theorem delete_of_unhindered (h : s.Unhindered b text) (hid : MediaId.parse text = some id)
    (hitems : s.items = some items) (hkeys : (itemKeys items).Nodup) (hitem : item ∈ items)
    {f : LinkedFile} (hf : id.NamesFile item f) :
    ∃ s', s.delete b text = (.ok (), s') ∧ s'.items = some (withoutSelected id items) := by
  obtain ⟨before, after, hselects⟩ := exists_selects hid hitems hkeys hitem hf
  obtain ⟨s', hcalls⟩ := h id before item after hselects
  have hselection : selection? id items = some item :=
    (exists_selects_iff hid hitems).1 ⟨before, after, hselects⟩
  rw [delete_of_some hid hitems hselection, deleteSelected_of_follows hcalls]
  exact ⟨_, rfl, rfl⟩

/-- Deleting files of an item leaves the other items in their places. -/
theorem delete_in_place {before after : List Item} (h : s.Unhindered b text)
    (hid : MediaId.parse text = some id) (hitems : s.items = some (before ++ item :: after))
    (hkeys : (itemKeys (before ++ item :: after)).Nodup) {f : LinkedFile}
    (hf : id.NamesFile item f) :
    ∃ s', s.delete b text = (.ok (), s') ∧
      s'.items = some (before ++ (item.remainder? id).toList ++ after) := by
  obtain ⟨s', hdelete, hafter⟩ := delete_of_unhindered h hid hitems hkeys
    (List.mem_append_right _ List.mem_cons_self) hf
  have hbefore : ∀ x ∈ before, x.linked.title.key ≠ id.titleKey := by
    rw [← hf.key_eq]
    exact key_ne_of_nodup hkeys
  rw [withoutSelected_append_cons hf.key_eq hbefore] at hafter
  exact ⟨s', hdelete, hafter⟩

/-! ## Two deletions -/

/-- A deletion leaves an item with the files that it does not name. -/
theorem exists_named_after {a c : MediaId} (hkeys : (itemKeys items).Nodup) (hitem : item ∈ items)
    {f : LinkedFile} (hf : c.NamesFile item f) (hapart : ¬a.NamesFile item f) :
    ∃ rest ∈ withoutSelected a items, c.NamesFile rest f := by
  rw [withoutSelected_eq_filterMap a hkeys]
  by_cases hkey : item.linked.title.key = a.titleKey
  · have hkept : ¬a.selects f.file = true := fun h => hapart ⟨hkey, hf.mem, h⟩
    have hmem : f ∈ (item.withoutFiles a.selects).linked.files :=
      List.mem_filter.2 ⟨hf.mem, by simpa using hkept⟩
    have hleft : item.left? a = some (item.withoutFiles a.selects) := by
      rw [Item.left?_of_eq hkey, Item.rest?_of_mem hmem]
    exact ⟨_, List.mem_filterMap.2 ⟨item, hitem, hleft⟩, hf.key_eq, hmem, hf.selects⟩
  · exact ⟨item, List.mem_filterMap.2 ⟨item, hitem, Item.left?_of_ne hkey⟩, hf⟩

theorem deleteEach_pair {x y : String} {a c : MediaId} (hx : MediaId.parse x = some a)
    (hy : MediaId.parse y = some c) (hitems : s.items = some items)
    (hkeys : (itemKeys items).Nodup) {first second : Item} {f g : LinkedFile}
    (hfirst : first ∈ items) (hf : a.NamesFile first f) (hsecond : second ∈ items)
    (hg : c.NamesFile second g) (hapart : ¬a.NamesFile second g)
    (hcalls : s.UnhinderedEach b [x, y]) :
    (s.deleteEach b [x, y]).1 = [.ok (), .ok ()] ∧
      (s.deleteEach b [x, y]).2.items = some (withoutSelected c (withoutSelected a items)) := by
  obtain ⟨hcalls₁, hcalls₂, -⟩ := hcalls
  obtain ⟨s₁, hdelete₁, hitems₁⟩ := delete_of_unhindered hcalls₁ hx hitems hkeys hfirst hf
  obtain ⟨rest, hrest, hg⟩ := exists_named_after hkeys hsecond hg hapart
  have hkeys₁ : (itemKeys (withoutSelected a items)).Nodup :=
    hkeys.sublist (itemKeys_withoutSelected_sublist a items)
  rw [hdelete₁] at hcalls₂
  obtain ⟨s₂, hdelete₂, hitems₂⟩ := delete_of_unhindered hcalls₂ hy hitems₁ hkeys₁ hrest hg
  have hrun : s.deleteEach b [x, y] = ([.ok (), .ok ()], s₂) := by
    simp only [deleteEach, hdelete₁, hdelete₂]
  rw [hrun]
  exact ⟨rfl, hitems₂⟩

/-! ## The files of a title one after the other -/

/-- The ids of files of an item. -/
def fileTexts (item : Item) (files : List LinkedFile) : List String :=
  files.map fun f => (item.idOf (.file f.file.id)).text

theorem perm_rest_of_perm_cons {f : LinkedFile} {rest files : List LinkedFile}
    (hids : (files.map (·.file.id)).Nodup) (h : (f :: rest).Perm files) :
    rest.Perm (files.filter fun g => !(g.file.id == f.file.id)) := by
  have hperm := h.filter fun g => !(g.file.id == f.file.id)
  have hnodup : ((f :: rest).map (·.file.id)).Nodup := (h.map _).nodup_iff.2 hids
  have hothers : ∀ g ∈ rest, (!(g.file.id == f.file.id)) = true := by
    intro g hg
    rw [Bool.not_eq_true', beq_eq_false_iff_ne]
    intro heq
    exact (List.nodup_cons.1 hnodup).1 (List.mem_map.2 ⟨g, hg, heq⟩)
  have hfirst : (!(f.file.id == f.file.id)) = false := by rw [beq_self_eq_true, Bool.not_true]
  rwa [List.filter_cons, hfirst, if_neg Bool.false_ne_true, List.filter_eq_self.2 hothers] at hperm

/-- Deleting the files of an item one after the other takes the item away, in whatever order the
files are deleted. -/
theorem deleteEach_fileTexts {files : List LinkedFile} {before after : List Item}
    (hitems : s.items = some (before ++ item :: after))
    (hkeys : (itemKeys (before ++ item :: after)).Nodup) (htitle : 0 ≤ item.linked.title.id)
    (hunsigned : ∀ f ∈ item.linked.files, 0 ≤ f.file.id)
    (hids : (item.linked.files.map (·.file.id)).Nodup) (hne : files ≠ [])
    (hperm : files.Perm item.linked.files) (hcalls : s.UnhinderedEach b (fileTexts item files)) :
    (∀ answer ∈ (s.deleteEach b (fileTexts item files)).1, answer = .ok ()) ∧
      (s.deleteEach b (fileTexts item files)).2.items = some (before ++ after) := by
  -- what is left of the item after the first file is deleted like the item itself
  induction files generalizing item s with
  | nil => exact absurd rfl hne
  | cons f rest ih =>
    obtain ⟨hcall, hcalls⟩ := hcalls
    let id : MediaId := item.idOf (.file f.file.id)
    have hf : f ∈ item.linked.files := hperm.subset List.mem_cons_self
    have hparse : MediaId.parse id.text = some id := MediaId.parse_text ⟨htitle, hunsigned f hf⟩
    have hnames : id.NamesFile item f := ⟨rfl, hf, beq_self_eq_true _⟩
    obtain ⟨s₁, hdelete, hitems₁⟩ := delete_in_place hcall hparse hitems hkeys hnames
    have hleft : rest.Perm (item.withoutFiles id.selects).linked.files :=
      perm_rest_of_perm_cons hids hperm
    have hrun : s.deleteEach b (fileTexts item (f :: rest))
        = (.ok () :: (s₁.deleteEach b (fileTexts item rest)).1,
            (s₁.deleteEach b (fileTexts item rest)).2) := by
      simp only [fileTexts, List.map_cons, deleteEach, hdelete]
    rw [hrun, List.forall_mem_cons]
    rw [hdelete] at hcalls
    by_cases hlast : rest = []
    · subst hlast
      have hgone : item.remainder? id = none := by
        rw [Item.remainder?_eq_rest?, Item.rest?_of_eq_nil hleft.symm.eq_nil]
      rw [hgone, Option.toList_none, List.append_nil] at hitems₁
      exact ⟨⟨rfl, by simp [fileTexts, deleteEach]⟩, hitems₁⟩
    · obtain ⟨g, hg⟩ := List.exists_mem_of_ne_nil rest hlast
      have hsome : item.remainder? id = some (item.withoutFiles id.selects) := by
        rw [Item.remainder?_eq_rest?, Item.rest?_of_mem (hleft.subset hg)]
      rw [hsome, Option.toList_some, List.append_assoc, List.singleton_append] at hitems₁
      have hkeys₁ : (itemKeys (before ++ item.withoutFiles id.selects :: after)).Nodup := by
        rw [itemKeys, List.map_append, List.map_cons] at hkeys ⊢
        exact hkeys
      obtain ⟨hanswers, hitems₂⟩ := ih hitems₁ hkeys₁ htitle
        (fun f hf => hunsigned f (List.mem_filter.1 hf).1)
        (hids.sublist (List.filter_sublist.map _)) hlast hleft hcalls
      exact ⟨⟨rfl, hanswers⟩, hitems₂⟩

theorem deleteEach_of_malformed {texts : List String}
    (h : ∀ text ∈ texts, MediaId.parse text = none) : (s.deleteEach b texts).2 = s := by
  induction texts with
  | nil => rfl
  | cons text rest ih =>
    obtain ⟨htext, hrest⟩ := List.forall_mem_cons.1 h
    have hdelete : s.delete b text = (.error (.malformedId text), s) := by
      simp only [delete, htext]
    rw [deleteEach, hdelete]
    exact ih hrest

/-- A title without files is not deleted. -/
theorem delete_of_files_eq_nil (hid : MediaId.parse text = some id) (hitems : s.items = some items)
    (hkeys : (itemKeys items).Nodup) (hitem : item ∈ items)
    (hkey : item.linked.title.key = id.titleKey) (hfiles : item.linked.files = []) :
    s.delete b text = (.error (.mediaNotFound text), s) := by
  have hnone : selection? id items = none := by
    refine Option.eq_none_iff_forall_ne_some.2 fun x hx => ?_
    obtain ⟨⟨before, after, rfl, htitle, -⟩, hselected⟩ := selection?_eq_some_iff.1 hx
    obtain rfl : x = item := List.inj_on_of_nodup_map hkeys
      (List.mem_append_right _ List.mem_cons_self) hitem (htitle.trans hkey.symm)
    exact hselected (by rw [Item.selected, hfiles, List.filter_nil])
  refine delete_of_none hid ?_
  rw [hitems, Option.bind_some, hnone]

/-- Deleting a title takes its item away. -/
theorem delete_title {before after : List Item} (hitems : s.items = some (before ++ item :: after))
    (hkeys : (itemKeys (before ++ item :: after)).Nodup) (htitle : 0 ≤ item.linked.title.id)
    (hne : item.linked.files ≠ []) (h : s.Unhindered b (item.idOf .all).text) :
    (s.delete b (item.idOf .all).text).2.items = some (before ++ after) := by
  obtain ⟨f, hf⟩ := List.exists_mem_of_ne_nil _ hne
  have hparse : MediaId.parse (item.idOf .all).text = some (item.idOf .all) :=
    MediaId.parse_text ⟨htitle, trivial⟩
  have hnames : (item.idOf .all).NamesFile item f := ⟨rfl, hf, rfl⟩
  obtain ⟨s', hdelete, hafter⟩ := delete_in_place h hparse hitems hkeys hnames
  have hgone : item.remainder? (item.idOf .all) = none :=
    if_pos (List.all_eq_true.2 fun f hf => rfl)
  rw [hgone, Option.toList_none, List.append_nil] at hafter
  rw [hdelete, hafter]

/-! ## Any order -/

/-- Let no two items have one key, and no two files of an item one number. If no call fails, two ids
of different files can be deleted in either order; and what deleting a title leaves is also left if
its files are deleted one after the other in any order, unless a number of them has a sign. -/
theorem items_of_deletions_in_any_order (hitems : s.items = some items)
    (hkeys : (itemKeys items).Nodup)
    (hids : ∀ item ∈ items, (item.linked.files.map (·.file.id)).Nodup) :
    (∀ x y a c, MediaId.parse x = some a → MediaId.parse y = some c →
      (∃ item ∈ items, ∃ f, a.NamesFile item f) → (∃ item ∈ items, ∃ f, c.NamesFile item f) →
      (∀ item ∈ items, ∀ f, ¬(a.NamesFile item f ∧ c.NamesFile item f)) →
      s.UnhinderedEach b [x, y] → s.UnhinderedEach b [y, x] →
      (s.deleteEach b [x, y]).1 = [.ok (), .ok ()] ∧
      (s.deleteEach b [y, x]).1 = [.ok (), .ok ()] ∧
      (s.deleteEach b [x, y]).2.items = some (withoutSelected c (withoutSelected a items)) ∧
      (s.deleteEach b [y, x]).2.items = (s.deleteEach b [x, y]).2.items) ∧
    (∀ item ∈ items, (∀ f ∈ item.linked.files, 0 ≤ f.file.id) →
      ∀ files, files.Perm item.linked.files → s.UnhinderedEach b (fileTexts item files) →
      s.Unhindered b (item.idOf .all).text →
      (s.deleteEach b (fileTexts item files)).2.items
        = (s.delete b (item.idOf .all).text).2.items ∧
      (0 ≤ item.linked.title.id →
        ∀ answer ∈ (s.deleteEach b (fileTexts item files)).1, answer = .ok ())) := by
  constructor
  · rintro x y a c hx hy ⟨first, hfirst, f, hf⟩ ⟨second, hsecond, g, hg⟩ hapart hxy hyx
    obtain ⟨hanswers, hafter⟩ := deleteEach_pair hx hy hitems hkeys hfirst hf hsecond hg
      (fun h => hapart second hsecond g ⟨h, hg⟩) hxy
    obtain ⟨hanswers', hafter'⟩ := deleteEach_pair hy hx hitems hkeys hsecond hg hfirst hf
      (fun h => hapart first hfirst f ⟨hf, h⟩) hyx
    refine ⟨hanswers, hanswers', hafter, ?_⟩
    rw [hafter', hafter, withoutSelected_comm a c hkeys]
  · intro item hitem hunsigned files hperm heach hwhole
    by_cases htitle : 0 ≤ item.linked.title.id
    · by_cases hne : files = []
      · subst hne
        have hparse : MediaId.parse (item.idOf .all).text = some (item.idOf .all) :=
          MediaId.parse_text ⟨htitle, trivial⟩
        rw [delete_of_files_eq_nil hparse hitems hkeys hitem rfl hperm.symm.eq_nil]
        exact ⟨rfl, fun _ answer hanswer => by cases hanswer⟩
      · obtain ⟨before, after, rfl⟩ := List.append_of_mem hitem
        obtain ⟨hanswers, hafter⟩ := deleteEach_fileTexts hitems hkeys htitle hunsigned
          (hids item hitem) hne hperm heach
        refine ⟨?_, fun _ => hanswers⟩
        rw [hafter, delete_title hitems hkeys htitle (fun h => hne (h ▸ hperm).eq_nil) hwhole]
    · -- no id of the title can be read
      have hmalformed (selector : FileSelector) : MediaId.parse (item.idOf selector).text = none :=
        MediaId.parse_text_of_neg (Int64.not_le.1 htitle)
      have hkept : (s.deleteEach b (fileTexts item files)).2 = s := by
        refine deleteEach_of_malformed fun text htext => ?_
        obtain ⟨f, -, rfl⟩ := List.mem_map.1 htext
        exact hmalformed _
      have hdelete : s.delete b (item.idOf .all).text
          = (.error (.malformedId (item.idOf .all).text), s) := by
        simp only [delete, hmalformed]
      rw [hkept, hdelete]
      exact ⟨rfl, fun h => absurd h htitle⟩

end Inventory

namespace Sample

/-- The sample inventory after a refresh. -/
def refreshed : Inventory StandInLibrary StandInClient Trackers :=
  (inventory.refresh backends ⟨0, 0⟩).2

def movieItem : Item := rules.item ⟨0, 0⟩ ⟨movie.title, movie.files.map (·.link [torrent])⟩

/-- The sample inventory with a movie whose file has a number with a sign, after a refresh. -/
def refreshedSigned : Inventory StandInLibrary StandInClient Trackers :=
  let unread : Inventory StandInLibrary StandInClient Trackers :=
    { inventory with media := { backend := [⟨movie.title, [⟨-5, -1, "alpha.mkv", 100⟩]⟩] } }
  (unread.refresh backends ⟨0, 0⟩).2

def signedItem : Item :=
  rules.item ⟨0, 0⟩ ⟨movie.title, [(⟨-5, -1, "alpha.mkv", 100⟩ : MediaFile).link [torrent]]⟩

end Sample

open Sample in
theorem files_of_movie_deleted_in_any_order :
    (refreshed.deleteEach backends ["movie-1-11", "movie-1-10"]).2.items
      = (refreshed.deleteEach backends ["movie-1-10", "movie-1-11"]).2.items ∧
    (refreshed.deleteEach backends ["movie-1-11", "movie-1-10"]).2.items
      = (refreshed.delete backends "movie-1").2.items := by
  have hitems : refreshed.items = some [movieItem] := rfl
  have hseeded : (⟨.movie, 1, .file 10⟩ : MediaId).NamesFile movieItem (seeded.link [torrent]) :=
    ⟨rfl, List.mem_cons_self, rfl⟩
  have hunlinked : (⟨.movie, 1, .file 11⟩ : MediaId).NamesFile movieItem
      (unlinked.link [torrent]) := ⟨rfl, List.mem_cons_of_mem _ List.mem_cons_self, rfl⟩
  have hapart : ∀ item ∈ [movieItem], ∀ f, ¬((⟨.movie, 1, .file 10⟩ : MediaId).NamesFile item f ∧
      (⟨.movie, 1, .file 11⟩ : MediaId).NamesFile item f) := by
    rintro item - f ⟨h, h'⟩
    have heq : (10 : Int64) = 11 := (beq_iff_eq.1 h.selects).symm.trans (beq_iff_eq.1 h'.selects)
    cases heq
  have hcalls : refreshed.UnhinderedEach backends ["movie-1-10", "movie-1-11"] :=
    ⟨Inventory.unhindered_of_ok rfl, Inventory.unhindered_of_ok rfl, trivial⟩
  have hcalls' : refreshed.UnhinderedEach backends ["movie-1-11", "movie-1-10"] :=
    ⟨Inventory.unhindered_of_ok rfl, Inventory.unhindered_of_ok rfl, trivial⟩
  obtain ⟨hpair, hfiles⟩ :=
    Inventory.items_of_deletions_in_any_order (b := backends) hitems (by decide) (by decide)
  obtain ⟨-, -, -, hcomm⟩ := hpair "movie-1-10" "movie-1-11" _ _ rfl rfl
    ⟨_, List.mem_cons_self, _, hseeded⟩ ⟨_, List.mem_cons_self, _, hunlinked⟩ hapart hcalls hcalls'
  obtain ⟨hwhole, -⟩ := hfiles movieItem List.mem_cons_self (by decide)
    [unlinked.link [torrent], seeded.link [torrent]] (List.Perm.swap _ _ _) hcalls'
    (Inventory.unhindered_of_ok rfl)
  exact ⟨hcomm, hwhole⟩

open Sample in
/-- The id of a file whose number has a sign cannot be read, so that the file stays when the files
of its title are deleted one after the other. -/
theorem file_with_signed_number_stays :
    refreshedSigned.items = some [signedItem] ∧ (itemKeys [signedItem]).Nodup ∧
    (signedItem.linked.files.map (·.file.id)).Nodup ∧
    Inventory.fileTexts signedItem signedItem.linked.files = ["movie-1--5"] ∧
    refreshedSigned.UnhinderedEach backends ["movie-1--5"] ∧
    refreshedSigned.Unhindered backends (signedItem.idOf .all).text ∧
    (refreshedSigned.deleteEach backends ["movie-1--5"]).2.items
      ≠ (refreshedSigned.delete backends (signedItem.idOf .all).text).2.items := by
  have hcalls : refreshedSigned.Unhindered backends "movie-1--5" := by
    intro id before item after h
    cases h.parse_eq
  have hkept : (refreshedSigned.deleteEach backends ["movie-1--5"]).2.items
      = some [signedItem] := rfl
  have hgone : (refreshedSigned.delete backends (signedItem.idOf .all).text).2.items
      = some [] := rfl
  refine ⟨rfl, by decide, by decide, rfl, ⟨hcalls, trivial⟩, Inventory.unhindered_of_ok rfl, ?_⟩
  rw [hkept, hgone]
  exact fun h => nomatch h

end SeedCleanup

import SeedCleanup.Media.Backend
import SeedCleanup.Proofs.DeletionOrder
import SeedCleanup.Proofs.FleetTheorems
import SeedCleanup.Proofs.RefreshTheorems

/-!
# The items and the libraries

The inventory takes files out of its items by the id of a request, and the libraries take files out
of what they hold by the numbers of these files, wherever they find them. Where no number occurs
twice in a library, both do the same, so that the items keep showing the titles with files that the
libraries hold (`items_agree_with_libraries`).
-/

namespace SeedCleanup

/-- The numbers of the files of a title. -/
def MediaEntry.fileIds (e : MediaEntry) : List Int64 := e.files.map (·.id)

/-- The titles with files. -/
def withFiles (entries : List MediaEntry) : List MediaEntry := entries.filter fun e => !e.files.isEmpty

/-- A title of the inventory as a library holds it. -/
def Item.entry (item : Item) : MediaEntry := ⟨item.linked.title, item.linked.files.map (·.file)⟩

theorem mem_withFiles {entries : List MediaEntry} {e : MediaEntry} :
    e ∈ withFiles entries ↔ e ∈ entries ∧ e.files ≠ [] := by
  rw [withFiles, List.mem_filter]
  simp

theorem withFiles_eq_self {entries : List MediaEntry} (h : ∀ e ∈ entries, e.files ≠ []) :
    withFiles entries = entries :=
  List.filter_eq_self.2 fun e he => by simpa using h e he

theorem withFiles_append (a b : List MediaEntry) :
    withFiles (a ++ b) = withFiles a ++ withFiles b := List.filter_append ..

theorem withFiles_flatten (lists : List (List MediaEntry)) :
    withFiles lists.flatten = (lists.map withFiles).flatten := List.filter_flatten

/-! ## What a deletion leaves of titles -/

namespace FileDeletion

variable (d : FileDeletion)

/-- What a deletion leaves of a title: only titles of its kind lose files. -/
def prune (e : MediaEntry) : MediaEntry := if e.title.kind = d.kind then e.withoutFiles d.ids else e

variable {d}

theorem prune_eq_self {e : MediaEntry}
    (h : e.title.kind = d.kind → ∀ id ∈ e.fileIds, id ∉ d.ids) : d.prune e = e := by
  unfold prune
  split
  · rename_i hkind
    have hfiles : (e.files.filter fun f => !d.ids.contains f.id) = e.files := by
      refine List.filter_eq_self.2 fun f hf => ?_
      have hid := h hkind f.id (List.mem_map_of_mem hf)
      simpa using hid
    rw [MediaEntry.withoutFiles, hfiles]
  · rfl

theorem files_prune_of_nil {e : MediaEntry} (h : e.files = []) : (d.prune e).files = [] := by
  unfold prune
  split
  · rw [MediaEntry.withoutFiles, h, List.filter_nil]
  · exact h

/-- A title without files stays one, so it does not matter whether it is left out before. -/
theorem withFiles_map_prune (entries : List MediaEntry) :
    withFiles (entries.map d.prune) = withFiles ((withFiles entries).map d.prune) := by
  have hboth : ∀ e ∈ entries, (!(d.prune e).files.isEmpty)
      = ((!(d.prune e).files.isEmpty) && !e.files.isEmpty) := by
    intro e _
    by_cases he : e.files = []
    · rw [files_prune_of_nil he]
      rfl
    · simp [he]
  unfold withFiles
  rw [List.filter_map, List.filter_map, List.filter_filter]
  exact congrArg (List.map d.prune) (List.filter_congr hboth)

/-- A library takes files out of its own titles, and another library of none. -/
theorem withFiles_apply {kind : MediaKind} {entries : List MediaEntry}
    (h : ∀ e ∈ entries, e.title.kind = kind) :
    withFiles (if kind == d.kind then d.apply entries else entries)
      = withFiles (entries.map d.prune) := by
  by_cases hkind : kind = d.kind
  · have hprune : entries.map d.prune = entries.map (·.withoutFiles d.ids) := by
      refine List.map_congr_left fun e he => ?_
      exact if_pos ((h e he).trans hkind)
    rw [if_pos (beq_iff_eq.2 hkind), hprune, FileDeletion.apply, withFiles, List.filter_filter]
    simp only [Bool.and_self]
    rfl
  · have hprune : entries.map d.prune = entries.map id := by
      refine List.map_congr_left fun e he => ?_
      exact if_neg fun hd => hkind ((h e he).symm.trans hd)
    rw [if_neg (mt beq_iff_eq.1 hkind), hprune, List.map_id]

theorem fileIds_withoutFiles (e : MediaEntry) (ids : List Int64) :
    (e.withoutFiles ids).fileIds = e.fileIds.filter fun id => !ids.contains id := by
  show (e.files.filter _).map _ = (e.files.map _).filter _
  rw [List.filter_map]
  rfl

/-- The files that a deletion leaves are those with other numbers, whatever titles they have. -/
theorem flatMap_fileIds_apply (entries : List MediaEntry) :
    (d.apply entries).flatMap (·.fileIds)
      = (entries.flatMap (·.fileIds)).filter fun id => !d.ids.contains id := by
  induction entries with
  | nil => rfl
  | cons e rest ih =>
    rw [List.flatMap_cons, List.filter_append, ← ih, ← fileIds_withoutFiles]
    by_cases hempty : (e.withoutFiles d.ids).files = []
    · have hids : (e.withoutFiles d.ids).fileIds = [] := by
        rw [MediaEntry.fileIds, hempty, List.map_nil]
      rw [hids, List.nil_append]
      simp [apply, hempty]
    · simp [apply, hempty]

end FileDeletion

/-! ## What libraries keep -/

/-- A library keeps titles of its own kind only, and no two of its files have one number. -/
structure KeepsOwn (kind : MediaKind) (entries : List MediaEntry) : Prop where
  kind_eq : ∀ e ∈ entries, e.title.kind = kind
  nodup : (entries.flatMap (·.fileIds)).Nodup

/-- The libraries of a table keep titles of their own kinds. -/
def KeepOwn (t : SortedTable MediaKind (List MediaEntry)) : Prop :=
  ∀ kind entries, (kind, entries) ∈ t.entries → KeepsOwn kind entries

/-- Two titles of one kind share no number of a file. -/
def Apart (a b : MediaEntry) : Prop :=
  a.title.kind = b.title.kind → ∀ id ∈ a.fileIds, id ∉ b.fileIds

theorem KeepsOwn.apply {kind : MediaKind} {entries : List MediaEntry} (h : KeepsOwn kind entries)
    (d : FileDeletion) : KeepsOwn kind (d.apply entries) where
  kind_eq := by
    intro e he
    obtain ⟨e', he', rfl⟩ := List.mem_map.1 (List.mem_filter.1 he).1
    exact h.kind_eq e' he'
  nodup := by
    rw [FileDeletion.flatMap_fileIds_apply]
    exact h.nodup.filter _

/-- What is left of the libraries after a deletion. -/
def tableWithout (d : FileDeletion) (t : SortedTable MediaKind (List MediaEntry)) :
    SortedTable MediaKind (List MediaEntry) :=
  t.mapValues fun kind entries => if kind == d.kind then d.apply entries else entries

theorem KeepOwn.without {t : SortedTable MediaKind (List MediaEntry)} (h : KeepOwn t)
    (d : FileDeletion) : KeepOwn (tableWithout d t) := by
  intro kind entries hmem
  obtain ⟨⟨kind', entries'⟩, hmem', heq⟩ := List.mem_map.1 hmem
  obtain ⟨rfl, rfl⟩ := Prod.mk.inj heq
  dsimp only
  split
  · exact (h _ _ hmem').apply d
  · exact h _ _ hmem'

/-- Whatever is left of the libraries after a deletion is left of their titles one by one. -/
theorem withFiles_tableWithout {t : SortedTable MediaKind (List MediaEntry)} (h : KeepOwn t)
    (d : FileDeletion) :
    withFiles (tableWithout d t).values.flatten
      = withFiles ((withFiles t.values.flatten).map d.prune) := by
  have hlists : ((tableWithout d t).values).map withFiles
      = (t.values.map (List.map d.prune)).map withFiles := by
    simp only [SortedTable.values, tableWithout, SortedTable.mapValues, List.map_map]
    refine List.map_congr_left fun kl hkl => ?_
    exact FileDeletion.withFiles_apply (h kl.1 kl.2 hkl).kind_eq
  rw [← FileDeletion.withFiles_map_prune, List.map_flatten, withFiles_flatten, withFiles_flatten,
    hlists]

theorem KeepOwn.nodup_fileIds {t : SortedTable MediaKind (List MediaEntry)} (h : KeepOwn t)
    {e : MediaEntry} (he : e ∈ t.values.flatten) : e.fileIds.Nodup := by
  obtain ⟨entries, hentries, he⟩ := List.mem_flatten.1 he
  obtain ⟨⟨kind, _⟩, hmem, rfl⟩ := List.mem_map.1 hentries
  exact (List.nodup_flatMap.1 (h kind _ hmem).nodup).1 e he

/-- No two titles of the libraries share a file, wherever they are held. -/
theorem KeepOwn.pairwise_apart {t : SortedTable MediaKind (List MediaEntry)} (h : KeepOwn t) :
    t.values.flatten.Pairwise Apart := by
  rw [List.pairwise_flatten]
  constructor
  · intro entries hentries
    obtain ⟨⟨kind, _⟩, hmem, rfl⟩ := List.mem_map.1 hentries
    have hpairs := (List.nodup_flatMap.1 (h kind _ hmem).nodup).2
    exact hpairs.imp fun {a b} hdisjoint _ id ha hb => hdisjoint ha hb
  · rw [SortedTable.values, List.pairwise_map]
    refine t.ascending.imp_of_mem fun {x y} hx hy hlt a ha b hb hkinds => ?_
    -- different libraries keep different kinds
    have hkeys : x.1 = y.1 := by
      rw [← (h _ _ hx).kind_eq a ha, ← (h _ _ hy).kind_eq b hb, hkinds]
    rw [hkeys, Std.compare_self] at hlt
    cases hlt

/-! ## What a deletion leaves of items -/

namespace Item

variable {item : Item} {id : MediaId}

/-- The deletion of the files of an item that an id names. -/
def deletionOf (item : Item) (id : MediaId) : FileDeletion :=
  ⟨item.linked.title.kind, (item.selected id).map (·.file.id), true⟩

/-- Where no two files of an item have one number, the number tells whether a file is selected. -/
theorem contains_ids_deletionOf (hnodup : item.entry.fileIds.Nodup) {f : LinkedFile}
    (hf : f ∈ item.linked.files) :
    (item.deletionOf id).ids.contains f.file.id = id.selects f.file := by
  have hids : (item.linked.files.map (·.file.id)).Nodup := by
    have hmap : item.entry.fileIds = item.linked.files.map (·.file.id) := List.map_map
    rw [← hmap]
    exact hnodup
  rw [Bool.eq_iff_iff, List.contains_iff_mem]
  constructor
  · intro hmem
    obtain ⟨g, hg, hid⟩ := List.mem_map.1 hmem
    obtain ⟨hgfiles, hgselected⟩ := List.mem_filter.1 hg
    have heq : g = f := List.inj_on_of_nodup_map hids hgfiles hf hid
    rw [← heq]
    exact hgselected
  · intro hselected
    exact List.mem_map.2 ⟨f, List.mem_filter.2 ⟨hf, hselected⟩, rfl⟩

theorem entry_withoutFiles (hnodup : item.entry.fileIds.Nodup) :
    (item.withoutFiles id.selects).entry = (item.deletionOf id).prune item.entry := by
  have hkept : (item.linked.files.filter fun f => !id.selects f.file).map (·.file)
      = (item.linked.files.map (·.file)).filter
          fun f => !(item.deletionOf id).ids.contains f.id := by
    rw [List.filter_map]
    refine congrArg _ (List.filter_congr fun f hf => ?_)
    show (!id.selects f.file) = !(item.deletionOf id).ids.contains f.file.id
    rw [contains_ids_deletionOf hnodup hf]
  have hkind : item.entry.title.kind = (item.deletionOf id).kind := rfl
  rw [FileDeletion.prune, if_pos hkind]
  exact congrArg (MediaEntry.mk item.linked.title) hkept

theorem map_entry_remainder? (hnodup : item.entry.fileIds.Nodup) :
    (item.remainder? id).toList.map entry
      = withFiles [(item.deletionOf id).prune item.entry] := by
  rw [← entry_withoutFiles hnodup]
  by_cases hnone : (item.withoutFiles id.selects).linked.files = []
  · have hempty : (item.withoutFiles id.selects).entry.files = [] := by
      rw [entry, hnone, List.map_nil]
    rw [remainder?_eq_rest?, rest?_of_eq_nil hnone]
    simp [withFiles, hempty]
  · obtain ⟨f, hf⟩ := List.exists_mem_of_ne_nil _ hnone
    have hfiles : (item.withoutFiles id.selects).entry.files ≠ [] := by
      intro hempty
      exact hnone (List.map_eq_nil_iff.1 hempty)
    rw [remainder?_eq_rest?, rest?_of_mem hf, withFiles_eq_self]
    · rfl
    · simpa using hfiles

/-- No title but that of the item has files with the numbers of the selected ones. -/
theorem prune_of_apart {e : MediaEntry} (h : Apart e item.entry) :
    (item.deletionOf id).prune e = e := by
  refine FileDeletion.prune_eq_self fun hkind i hi hmem => h hkind i hi ?_
  obtain ⟨f, hf, rfl⟩ := List.mem_map.1 hmem
  exact List.mem_map_of_mem (List.mem_map_of_mem (List.mem_filter.1 hf).1)

theorem withFiles_prune_of_apart {items : List Item} (hfiles : ∀ x ∈ items, x.entry.files ≠ [])
    (hapart : ∀ x ∈ items, Apart x.entry item.entry) :
    withFiles ((items.map entry).map (item.deletionOf id).prune) = items.map entry := by
  have hkept : (items.map entry).map (item.deletionOf id).prune = (items.map entry).map fun e => e := by
    refine List.map_congr_left fun e he => ?_
    obtain ⟨x, hx, rfl⟩ := List.mem_map.1 he
    exact prune_of_apart (hapart x hx)
  rw [hkept, List.map_id']
  refine withFiles_eq_self fun e he => ?_
  obtain ⟨x, hx, rfl⟩ := List.mem_map.1 he
  exact hfiles x hx

end Item

theorem Apart.symm {a b : MediaEntry} (h : Apart a b) : Apart b a :=
  fun hkinds id hb ha => h hkinds.symm id ha hb

/-- The items after a deletion show what is left of their titles one by one. -/
theorem map_entry_after_deletion {before after : List Item} {item : Item} {id : MediaId}
    (hfiles : ∀ x ∈ before ++ item :: after, x.entry.files ≠ [])
    (hnodup : item.entry.fileIds.Nodup)
    (hapart : ((before ++ item :: after).map Item.entry).Pairwise Apart) :
    (before ++ (item.remainder? id).toList ++ after).map Item.entry
      = withFiles (((before ++ item :: after).map Item.entry).map
          (item.deletionOf id).prune) := by
  rw [List.map_append, List.map_cons, List.pairwise_append, List.pairwise_cons] at hapart
  obtain ⟨-, ⟨hafter, -⟩, hbefore⟩ := hapart
  obtain ⟨hbeforeFiles, hrestFiles⟩ := List.forall_mem_append.1 hfiles
  obtain ⟨-, hafterFiles⟩ := List.forall_mem_cons.1 hrestFiles
  have hb : withFiles ((before.map Item.entry).map (item.deletionOf id).prune)
      = before.map Item.entry :=
    Item.withFiles_prune_of_apart hbeforeFiles fun x hx =>
      hbefore _ (List.mem_map_of_mem hx) _ List.mem_cons_self
  have ha : withFiles ((after.map Item.entry).map (item.deletionOf id).prune)
      = after.map Item.entry :=
    Item.withFiles_prune_of_apart hafterFiles fun x hx =>
      (hafter _ (List.mem_map_of_mem hx)).symm
  have hsplit : ((before ++ item :: after).map Item.entry).map (item.deletionOf id).prune
      = (before.map Item.entry).map (item.deletionOf id).prune ++
          ([(item.deletionOf id).prune item.entry] ++
            (after.map Item.entry).map (item.deletionOf id).prune) := by
    simp only [List.map_append, List.map_cons, List.cons_append, List.nil_append]
  rw [hsplit, withFiles_append, withFiles_append, hb, ha, ← Item.map_entry_remainder? hnodup,
    List.map_append, List.map_append, List.append_assoc]

/-! ## Deletions of the inventory -/

section

variable {σ τ ρ : Type} {source : MediaSource σ} {b : Backends (Libraries σ) τ ρ}

/-- The items show the titles with files that the libraries hold, and each library keeps its own
titles. -/
structure InStep (s : Inventory (Libraries σ) τ ρ)
    (t : SortedTable MediaKind (List MediaEntry)) (items : List Item) : Prop where
  entries_eq : s.media.entries = some t
  keepOwn : KeepOwn t
  items_eq : s.items = some items
  shown_eq : items.map Item.entry = withFiles t.values.flatten

namespace InStep

variable {s : Inventory (Libraries σ) τ ρ} {t : SortedTable MediaKind (List MediaEntry)}
  {items : List Item}

theorem entry_mem (h : InStep s t items) {x : Item} (hx : x ∈ items) :
    x.entry ∈ withFiles t.values.flatten := by
  rw [← h.shown_eq]
  exact List.mem_map_of_mem hx

theorem pairwise_apart (h : InStep s t items) : (items.map Item.entry).Pairwise Apart := by
  rw [h.shown_eq]
  exact h.keepOwn.pairwise_apart.filter _

end InStep

/-- The call about files takes them out of what the libraries hold, unless it fails. -/
theorem entries_of_make_files (hb : b.media = Libraries.manager source) {title : String}
    {d : FileDeletion} {s s' : Inventory (Libraries σ) τ ρ} {answer : Except InventoryError Unit}
    {t : SortedTable MediaKind (List MediaEntry)} (ht : s.media.entries = some t)
    (hmake : (DeletionCall.files d).make b title s = (answer, s')) :
    (answer = .ok () ∧ s'.media.entries = some (tableWithout d t)) ∨
      (∃ e, answer = .error e) ∧ s'.media.entries = some t := by
  have hcall : (Fleet.delete Libraries.rules source d).within b.habits.limit
      ("delete media files of " ++ Text.quoted title) s.media = (answer, s'.media) := by
    have hdelete : b.media.delete d = Fleet.delete Libraries.rules source d := by
      rw [hb]
      rfl
    rw [← hdelete, ← (Prod.mk.inj hmake).1, ← (Prod.mk.inj hmake).2]
    rfl
  obtain ⟨hok, hentries⟩ | ⟨herror, hentries⟩ := Fleet.entries_of_delete hcall
  · refine .inl ⟨hok, ?_⟩
    rw [hentries, Fleet.setEntries, ht]
    rfl
  · exact .inr ⟨herror, hentries.trans ht⟩

/-- The calls about torrents leave the libraries alone, and the call about files leaves them with
what is left after it. -/
theorem entries_of_follows (hb : b.media = Libraries.manager source) {title : String}
    {keys : List TorrentKey} {d : FileDeletion} {made : List DeletionCall}
    {s s' : Inventory (Libraries σ) τ ρ} {result : Except InventoryError Unit}
    {t : SortedTable MediaKind (List MediaEntry)} (ht : s.media.entries = some t)
    (h : Follows b title (keys.map .torrent ++ [.files d]) s made result s') :
    (result = .ok () ∧ s'.media.entries = some (tableWithout d t)) ∨
      (∃ e, result = .error e) ∧ s'.media.entries = some t := by
  induction keys generalizing s made with
  | nil =>
    -- the answer of the libraries decides
    cases h with
    | next hmake hgo hrest =>
      cases hrest
      obtain ⟨rfl, hentries⟩ | ⟨⟨e, rfl⟩, -⟩ := entries_of_make_files hb ht hmake
      · exact .inl ⟨rfl, hentries⟩
      · -- of an answer about files only success is tolerated
        cases e with
        | source stage e =>
          obtain ⟨⟨key, hkey⟩, -⟩ := hgo
          exact nomatch hkey
        | _ => exact hgo.elim
    | stopped hmake hstop => exact entries_of_make_files hb ht hmake
  | cons key keys ih =>
    have hmedia : ∀ answer s₁, (DeletionCall.torrent key).make b title s = (answer, s₁) →
        s₁.media.entries = some t := by
      intro answer s₁ hmake
      rw [← (Prod.mk.inj hmake).2]
      exact ht
    cases h with
    | next hmake hgo hrest => exact ih (hmedia _ _ hmake) hrest
    | stopped hmake hstop => exact .inr ⟨⟨_, rfl⟩, hmedia _ _ hmake⟩

/-- A deletion keeps the items and the libraries in step, whatever comes of it. -/
theorem InStep.delete (hb : b.media = Libraries.manager source)
    {s : Inventory (Libraries σ) τ ρ} {t : SortedTable MediaKind (List MediaEntry)}
    {items : List Item} (h : InStep s t items) (text : String) :
    ∃ t' items', InStep (s.delete b text).2 t' items' := by
  obtain ⟨e, hrefused⟩ | ⟨id, before, item, after, made, result, s', hselects, hcalls, hdelete⟩ :=
    delete_refused_or_follows b text s
  · rw [hrefused]
    exact ⟨t, items, h⟩
  · obtain rfl : items = before ++ item :: after :=
      Option.some.inj (h.items_eq.symm.trans hselects.items_eq)
    rw [hdelete]
    obtain ⟨rfl, hentries⟩ | ⟨⟨e, rfl⟩, hentries⟩ := entries_of_follows hb h.entries_eq hcalls
    · have hitem : item ∈ before ++ item :: after := List.mem_append_right _ List.mem_cons_self
      have hfiles : ∀ x ∈ before ++ item :: after, x.entry.files ≠ [] := fun x hx =>
        (mem_withFiles.1 (h.entry_mem hx)).2
      have hnodup : item.entry.fileIds.Nodup :=
        h.keepOwn.nodup_fileIds (mem_withFiles.1 (h.entry_mem hitem)).1
      refine ⟨_, _, hentries, h.keepOwn.without _, rfl, ?_⟩
      rw [map_entry_after_deletion hfiles hnodup h.pairwise_apart, h.shown_eq]
      exact (withFiles_tableWithout h.keepOwn _).symm
    · exact ⟨t, _, hentries, h.keepOwn, hcalls.items_eq.trans h.items_eq, h.shown_eq⟩

theorem InStep.deleteEach (hb : b.media = Libraries.manager source) (texts : List String)
    {s : Inventory (Libraries σ) τ ρ} {t : SortedTable MediaKind (List MediaEntry)}
    {items : List Item} (h : InStep s t items) :
    ∃ t' items', InStep (s.deleteEach b texts).2 t' items' := by
  induction texts generalizing s t items with
  | nil => exact ⟨t, items, h⟩
  | cons text rest ih =>
    obtain ⟨t', items', hstep⟩ := h.delete hb text
    exact ih hstep

/-! ## The refresh before -/

/-- Linking leaves out the titles without files and changes no title. -/
theorem map_entry_linkMedia (held : List MediaEntry) (found : List Torrent) :
    (linkMedia held found).map (fun linked => ⟨linked.title, linked.files.map (·.file)⟩)
      = withFiles held := by
  have hfile : ∀ e : MediaEntry, (e.files.map (·.link found)).map (·.file) = e.files := by
    intro e
    rw [List.map_map]
    exact List.map_id _
  unfold linkMedia
  rw [List.map_map]
  refine (List.map_congr_left fun e _ => ?_).trans (List.map_id' _)
  exact congrArg (MediaEntry.mk e.title) (hfile e)

theorem map_entry_ofLinked {r : TrackerResolver ρ} {now : Instant} {held : List MediaEntry}
    {found : List Torrent} {trackers trackers' : ρ} {items : List Item}
    (h : Item.ofLinked r now (linkMedia held found) trackers = (.ok items, trackers')) :
    items.map Item.entry = withFiles held := by
  rw [← map_entry_linkMedia held found, ← Item.map_linked_of_ofLinked h, List.map_map]
  rfl

/-- The items of a refresh show the titles that the libraries hold after it. -/
theorem inStep_of_refresh (hb : b.media = Libraries.manager source) {now : Instant}
    {s s' : Inventory (Libraries σ) τ ρ} {items : List Item}
    (hkept : ∀ kind entries,
      Fleet.Offers Libraries.rules source b.habits s.folder s.media kind entries →
        KeepsOwn kind entries)
    (h : s.refresh b now = (.ok items, s')) : ∃ t, InStep s' t items := by
  cases Inventory.refreshed_of_refresh h with
  | @intro torrents torrents' media media' folder folder' held found trackers htorrents hmedia
      hheld hfound hitems =>
    rw [hb] at hmedia hheld
    obtain ⟨t, hentries, hoffers⟩ := Fleet.exists_entries_of_renew hmedia
    obtain ⟨rfl, rfl⟩ := Fleet.eq_of_contents_within hentries hheld
    refine ⟨t, hentries, fun kind entries hmem => ?_, rfl, map_entry_ofLinked hitems⟩
    -- the torrents, which are renewed first, write into the folder only if it is not read
    have hfolder : b.habits.mode = .replay → folder = s.folder :=
      (Manager.renewed_of_renew htorrents).folder_eq
    exact hkept kind entries ((hoffers kind entries hmem).of_folder_eq hfolder)

/-- After a refresh that succeeds and any deletions, whatever comes of these, the inventory shows
exactly the titles with files that the libraries hold. -/
theorem items_agree_with_libraries (hb : b.media = Libraries.manager source) {now : Instant}
    {s s' : Inventory (Libraries σ) τ ρ} {items : List Item}
    (hkept : ∀ kind entries,
      Fleet.Offers Libraries.rules source b.habits s.folder s.media kind entries →
        KeepsOwn kind entries)
    (hrefresh : s.refresh b now = (.ok items, s')) (texts : List String) :
    ∃ shown held, (s'.deleteEach b texts).2.items = some shown ∧
      (b.media.contents.run (s'.deleteEach b texts).2.media).1 = .ok held ∧
      shown.map Item.entry = held.filter fun e => !e.files.isEmpty := by
  obtain ⟨t, hstep⟩ := inStep_of_refresh hb hkept hrefresh
  obtain ⟨t', shown, hafter⟩ := hstep.deleteEach hb texts
  refine ⟨shown, t'.values.flatten, hafter.items_eq, ?_, hafter.shown_eq⟩
  rw [hb]
  exact congrArg Prod.fst (Fleet.contents_run_of_entries hafter.entries_eq)

end

namespace Sample

def keptSeries : MediaEntry := ⟨⟨5, .series, "Beta", "", ⟨0, 0⟩⟩, [⟨10, 1, "beta.mkv", 300⟩]⟩

/-- A library that deletes what it is told to, and one that does not. -/
def libraryInventory : Inventory (Libraries MemoryLibrary) StandInClient Trackers where
  media := .ofSources [(.movie, { held := [movie] }),
    (.series, { held := [keptSeries], deleteError := some .timeout })]
  torrents := { backend := [torrent] }
  trackers := .rules rules

def libraryBackends : Backends (Libraries MemoryLibrary) StandInClient Trackers :=
  ⟨Libraries.manager MemorySource.source, StandInClient.manager, Trackers.resolver,
    ⟨.live false, none, ""⟩⟩

/-- The sample libraries after a refresh and three deletions, of which the first is refused by the
library, the second takes out a file and the third finds nothing. -/
def afterThreeDeletions :
    List (Except InventoryError Unit) × Inventory (Libraries MemoryLibrary) StandInClient Trackers :=
  (libraryInventory.refresh libraryBackends ⟨0, 0⟩).2.deleteEach libraryBackends
    ["series-5", "movie-1-11", "movie-1-11"]

end Sample

open Sample in
theorem libraries_agree_after_three_deletions :
    afterThreeDeletions.1.map (·.isOk) = [false, true, false] ∧
    ∃ shown, afterThreeDeletions.2.items = some shown ∧
      shown.map Item.entry = [⟨movie.title, [seeded]⟩, keptSeries] := by
  have hkept : ∀ kind entries, Fleet.Offers Libraries.rules MemorySource.source
      libraryBackends.habits libraryInventory.folder libraryInventory.media kind entries →
        KeepsOwn kind entries := by
    intro kind entries hoffers
    cases hoffers with
    | fetched hmode hmem hfetch =>
      obtain heq | hmem := List.mem_cons.1 hmem
      · obtain ⟨rfl, rfl⟩ := Prod.mk.inj heq
        obtain rfl := Except.ok.inj hfetch
        exact ⟨by decide, by decide⟩
      · obtain ⟨rfl, rfl⟩ := Prod.mk.inj (List.mem_singleton.1 hmem)
        obtain rfl := Except.ok.inj hfetch
        exact ⟨by decide, by decide⟩
    | saved hmode => exact nomatch hmode
  obtain ⟨items, s', hrefresh⟩ : ∃ items s',
      libraryInventory.refresh libraryBackends ⟨0, 0⟩ = (.ok items, s') := ⟨_, _, rfl⟩
  obtain ⟨shown, held, hshown, hheld, hagree⟩ := items_agree_with_libraries rfl hkept hrefresh
    ["series-5", "movie-1-11", "movie-1-11"]
  have hafter : s' = (libraryInventory.refresh libraryBackends ⟨0, 0⟩).2 :=
    (congrArg Prod.snd hrefresh).symm
  rw [hafter] at hshown hheld
  obtain rfl : [⟨movie.title, [seeded]⟩, keptSeries] = held := Except.ok.inj hheld
  exact ⟨rfl, shown, hshown, hagree⟩

end SeedCleanup

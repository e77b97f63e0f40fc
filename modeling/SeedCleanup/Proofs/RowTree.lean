import SeedCleanup.Proofs.RowTheorems

/-!
# The tree of a title

All rows of a title (`Row.subrows`) and those that have none below them (`Row.leaves`). The leaves
of the tree are the files of the title, and below a season they are its files in order.
-/

namespace SeedCleanup

/-- In lists that correspond element by element, every element has a counterpart. -/
theorem exists_of_mem_of_forall₂ {α β : Type} {R : α → β → Prop} {l : List α} {l' : List β}
    (h : List.Forall₂ R l l') {b : β} (hb : b ∈ l') : ∃ a ∈ l, R a b := by
  induction h with
  | nil => cases hb
  | @cons a b' l l' hab _ ih =>
    rcases List.mem_cons.1 hb with rfl | hb
    · exact ⟨a, List.mem_cons_self, hab⟩
    · obtain ⟨a', ha', hab'⟩ := ih hb
      exact ⟨a', List.mem_cons_of_mem _ ha', hab'⟩

namespace Row

/-! ## Rows of a tree -/

mutual

/-- A row and all rows below it. -/
def subrows : Row → List Row
  | ⟨id, kind, title, url, size, added, torrent, decision, allowDeletion, children⟩ =>
    ⟨id, kind, title, url, size, added, torrent, decision, allowDeletion, children⟩ ::
      subrowsOfAll children

/-- The rows of a list and all rows below them. -/
def subrowsOfAll : List Row → List Row
  | [] => []
  | row :: rest => subrows row ++ subrowsOfAll rest

end

theorem subrows_eq (row : Row) : row.subrows = row :: row.children.flatMap subrows := by
  have hall (rows : List Row) : subrowsOfAll rows = rows.flatMap subrows := by
    induction rows with
    | nil => rfl
    | cons row rest ih => rw [subrowsOfAll, ih, List.flatMap_cons]
  cases row
  rw [subrows, hall]

/-- The rows of a tree that have no rows below them. -/
def leaves (row : Row) : List Row := row.subrows.filter (·.children.isEmpty)

theorem subrows_of_children_eq_nil {row : Row} (h : row.children = []) : row.subrows = [row] := by
  rw [subrows_eq, h, List.flatMap_nil]

theorem leaves_of_children_eq_nil {row : Row} (h : row.children = []) : row.leaves = [row] := by
  rw [leaves, subrows_of_children_eq_nil h, List.filter_cons_of_pos (by rw [h]; rfl),
    List.filter_nil]

theorem leaves_of_children_ne_nil {row : Row} (h : row.children ≠ []) :
    row.leaves = row.children.flatMap leaves := by
  have hrow : row.children.isEmpty = false := List.isEmpty_eq_false_iff.2 h
  rw [leaves, subrows_eq, List.filter_cons, hrow, if_neg Bool.false_ne_true, List.filter_flatMap]
  rfl

/-! ## Rows of files -/

variable {item : Item} {now : Instant}

/-- Whether a row is that of a file. Only whether it offers deletion may differ. -/
def ShowsFile (item : Item) (now : Instant) (f : LinkedFile) (row : Row) : Prop :=
  row = { ofFile item now f with allowDeletion := row.allowDeletion }

namespace ShowsFile

variable {f : LinkedFile} {row : Row}

theorem id_eq (h : ShowsFile item now f row) : row.id = (item.idOf (.file f.file.id)).text := by
  rw [h]
  rfl

theorem children_eq (h : ShowsFile item now f row) : row.children = [] := by
  rw [h]
  rfl

end ShowsFile

theorem showsFile_ofFile (f : LinkedFile) : ShowsFile item now f (ofFile item now f) := rfl

/-- Rows of files are leaves. -/
theorem flatMap_of_showsFile {files : List LinkedFile} {rows : List Row}
    (h : List.Forall₂ (ShowsFile item now) files rows) :
    rows.flatMap subrows = rows ∧ rows.flatMap leaves = rows := by
  induction h with
  | nil => exact ⟨rfl, rfl⟩
  | cons hrow _ ih =>
    rw [List.flatMap_cons, List.flatMap_cons, ih.1, ih.2,
      subrows_of_children_eq_nil hrow.children_eq, leaves_of_children_eq_nil hrow.children_eq]
    exact ⟨rfl, rfl⟩

/-! ## Rows below a title -/

theorem guardSeason_of_children_eq_nil {row : Row} (h : row.children = []) :
    row.guardSeason = row := by
  unfold guardSeason
  split
  · cases row
    cases h
    rfl
  · rfl

/-- Guarding a season changes only whether its files offer deletion. -/
theorem guardSeason_eq (row : Row) :
    ∃ children, row.guardSeason = { row with children } ∧
      List.Forall₂ (fun c c' => c' = { c with allowDeletion := c'.allowDeletion }) row.children
        children := by
  unfold guardSeason
  split
  · refine ⟨_, rfl, ?_⟩
    rw [List.forall₂_map_right_iff, List.forall₂_same]
    exact fun c _ => rfl
  · refine ⟨row.children, ?_, ?_⟩
    · cases row
      rfl
    · rw [List.forall₂_same]
      intro c _
      cases c
      rfl

/-- What the rows address that a group of files is shown in. -/
def selectorsBelow (s : FileSelector) (files : List LinkedFile) : List FileSelector :=
  match s with
  | .season n => .season n :: files.map (.file ·.file.id)
  | s => [s]

namespace Shows

variable {s : FileSelector} {files : List LinkedFile} {row : Row}

/-- Below a season stand its files, in order. -/
theorem children_guardSeason {n : Int32} (h : Shows item now (.season n) files row) :
    List.Forall₂ (ShowsFile item now) files row.guardSeason.children := by
  obtain ⟨children, hguard, hchildren⟩ := row.guardSeason_eq
  rw [h.children_eq, List.forall₂_map_left_iff] at hchildren
  rw [hguard]
  exact hchildren

/-- A group shows its files, in order. -/
theorem leaves_guardSeason (h : Shows item now s files row) :
    List.Forall₂ (ShowsFile item now) files row.guardSeason.leaves := by
  cases s with
  | all => cases h
  | file id =>
    obtain ⟨f, rfl, -, rfl⟩ := h.eq_ofFile
    rw [guardSeason_of_children_eq_nil rfl, leaves_of_children_eq_nil rfl]
    exact .cons (showsFile_ofFile f) .nil
  | season n =>
    have hchildren := h.children_guardSeason
    have hne : row.guardSeason.children ≠ [] := by
      intro hnil
      rw [hnil, List.forall₂_nil_right_iff] at hchildren
      exact h.files_ne_nil hchildren
    rw [leaves_of_children_ne_nil hne, (flatMap_of_showsFile hchildren).2]
    exact hchildren

theorem map_id_subrows (h : Shows item now s files row) :
    row.guardSeason.subrows.map (·.id)
      = (selectorsBelow s files).map fun s => (item.idOf s).text := by
  cases s with
  | all => cases h
  | file id =>
    obtain ⟨f, rfl, rfl, rfl⟩ := h.eq_ofFile
    rw [guardSeason_of_children_eq_nil rfl, subrows_of_children_eq_nil rfl]
    rfl
  | season n =>
    have hchildren := h.children_guardSeason
    have hids : row.guardSeason.children.map (·.id)
        = files.map fun f => (item.idOf (.file f.file.id)).text := by
      rw [← List.forall₂_eq_eq_eq, List.forall₂_map_left_iff, List.forall₂_map_right_iff]
      exact hchildren.flip.imp fun row f hrow => ShowsFile.id_eq hrow
    have hid : row.guardSeason.id = (item.idOf (.season n)).text := by
      obtain ⟨children, hguard, -⟩ := row.guardSeason_eq
      rw [hguard]
      exact h.id_eq
    rw [subrows_eq, (flatMap_of_showsFile hchildren).1, List.map_cons, hids, hid, selectorsBelow,
      List.map_cons, List.map_map]
    rfl

end Shows

/-! ## The whole tree -/

/-- The rows of groups, season rows guarded, stand below their title. -/
theorem children_ofItem (item : Item) (now : Instant) :
    (ofItem item now).children
      = (item.linked.files.foldl (place item now) []).map guardSeason := rfl

variable {keys : List FileSelector} {files : List LinkedFile} {rows : List Row}

/-- The leaves below a title are its files, group by group. -/
theorem forall₂_leaves (h : List.Forall₂
      (fun s row => Shows item now s (item.membersOf files s) row) keys rows) :
    List.Forall₂ (ShowsFile item now) (keys.flatMap (item.membersOf files))
      ((rows.map guardSeason).flatMap leaves) := by
  induction h with
  | nil => exact .nil
  | cons hrow _ ih =>
    rw [List.flatMap_cons, List.map_cons, List.flatMap_cons]
    exact List.rel_append hrow.leaves_guardSeason ih

theorem map_id_flatMap_subrows (h : List.Forall₂
      (fun s row => Shows item now s (item.membersOf files s) row) keys rows) :
    ((rows.map guardSeason).flatMap subrows).map (·.id)
      = (keys.flatMap fun s => selectorsBelow s (item.membersOf files s)).map
          fun s => (item.idOf s).text := by
  induction h with
  | nil => rfl
  | cons hrow _ ih =>
    rw [List.map_cons, List.flatMap_cons, List.map_append, List.flatMap_cons, List.map_append, ih,
      hrow.map_id_subrows]

/-! ## What the rows of a tree address -/

/-- What the rows of a tree address whose groups are given. -/
def selectorsOf (item : Item) (keys : List FileSelector) (files : List LinkedFile) :
    List FileSelector :=
  .all :: keys.flatMap fun s => selectorsBelow s (item.membersOf files s)

/-- A group is addressed by its season and by the files in it. -/
theorem mem_selectorsBelow {s s' : FileSelector} (hs : ∃ f ∈ files, item.groupOf f = s)
    (h : s' ∈ selectorsBelow s (item.membersOf files s)) :
    (s' = s ∧ ∃ n, s = .season n) ∨ ∃ f ∈ item.membersOf files s, s' = .file f.file.id := by
  obtain ⟨f, hf, rfl⟩ := hs
  have hmem : f ∈ item.membersOf files (item.groupOf f) := Item.mem_membersOf.2 ⟨hf, rfl⟩
  cases hgroup : item.groupOf f with
  | all => exact absurd hgroup Item.groupOf_ne_all
  | file id =>
    rw [hgroup] at h hmem
    refine .inr ⟨f, hmem, ?_⟩
    rw [List.mem_singleton.1 h, Item.groupOf_eq_file_of hgroup]
  | season n =>
    rw [hgroup] at h
    rcases List.mem_cons.1 h with heq | hin
    · exact .inl ⟨heq, n, rfl⟩
    · obtain ⟨g, hg, rfl⟩ := List.mem_map.1 hin
      exact .inr ⟨g, hg, rfl⟩

namespace Placed

/-- No two rows of a tree address the same. -/
theorem nodup_selectorsOf (h : Placed item now keys files rows)
    (hnodup : (files.map (·.file.id)).Nodup) : (selectorsOf item keys files).Nodup := by
  have hids : ∀ f ∈ files, ∀ g ∈ files, f.file.id = g.file.id → f = g :=
    fun f hf g hg heq => List.inj_on_of_nodup_map hnodup hf hg heq
  rw [selectorsOf, List.nodup_cons, List.nodup_flatMap]
  refine ⟨fun hall => ?_, fun s hs => ?_, ?_⟩
  · obtain ⟨s, hs, hbelow⟩ := List.mem_flatMap.1 hall
    rcases mem_selectorsBelow ((h.mem_keys_iff s).1 hs) hbelow with ⟨rfl, n, heq⟩ | ⟨f, -, heq⟩
    · cases heq
    · cases heq
  · obtain ⟨f, hf, rfl⟩ := (h.mem_keys_iff s).1 hs
    cases hgroup : item.groupOf f with
    | all => exact absurd hgroup Item.groupOf_ne_all
    | file id => exact List.nodup_singleton _
    | season n =>
      have hmembers : ((item.membersOf files (.season n)).map (·.file.id)).Nodup :=
        hnodup.sublist (List.filter_sublist.map _)
      have hfiles := hmembers.map (f := FileSelector.file) fun _ _ => FileSelector.file.inj
      rw [List.map_map] at hfiles
      rw [selectorsBelow, List.nodup_cons]
      refine ⟨fun hin => ?_, hfiles⟩
      obtain ⟨g, -, heq⟩ := List.mem_map.1 hin
      cases heq
  · refine h.nodup.imp_of_mem fun {s s'} hs hs' hne x hx hx' => ?_
    -- a season is found in its own group only, and a file in the group that it belongs to
    rcases mem_selectorsBelow ((h.mem_keys_iff s).1 hs) hx with ⟨rfl, n, hn⟩ | ⟨f, hf, rfl⟩
    · rcases mem_selectorsBelow ((h.mem_keys_iff s').1 hs') hx' with ⟨heq, -⟩ | ⟨g, -, heq⟩
      · exact hne heq
      · cases hn.symm.trans heq
    · rcases mem_selectorsBelow ((h.mem_keys_iff s').1 hs') hx' with ⟨heq, n, hn⟩ | ⟨g, hg, heq⟩
      · cases heq.trans hn
      · obtain ⟨hfmem, hfgroup⟩ := Item.mem_membersOf.1 hf
        obtain ⟨hgmem, hggroup⟩ := Item.mem_membersOf.1 hg
        obtain rfl := hids f hfmem g hgmem (FileSelector.file.inj heq)
        exact hne (hfgroup.symm.trans hggroup)

/-- The rows of a tree address seasons exactly as the groups do. -/
theorem season_mem_selectorsOf_iff (h : Placed item now keys files rows) {n : Int32} :
    .season n ∈ selectorsOf item keys files ↔ ∃ f ∈ files, item.groupOf f = .season n := by
  rw [← h.mem_keys_iff, selectorsOf, List.mem_cons, List.mem_flatMap]
  constructor
  · rintro (heq | ⟨s, hs, hin⟩)
    · cases heq
    · rcases mem_selectorsBelow ((h.mem_keys_iff s).1 hs) hin with ⟨rfl, -⟩ | ⟨f, -, heq⟩
      · exact hs
      · cases heq
  · intro hin
    exact .inr ⟨.season n, hin, List.mem_cons_self⟩

/-- There is a row below a title that has files. -/
theorem children_ne_nil
    (h : Placed item now keys item.linked.files (item.linked.files.foldl (Row.place item now) []))
    (hfiles : item.linked.files ≠ []) : (ofItem item now).children ≠ [] := by
  intro hnil
  rw [children_ofItem, List.map_eq_nil_iff] at hnil
  have hrows := h.rows
  rw [hnil, List.forall₂_nil_right_iff] at hrows
  obtain ⟨f, hf⟩ := List.exists_mem_of_ne_nil _ hfiles
  have hkey : item.groupOf f ∈ keys := (h.mem_keys_iff _).2 ⟨f, hf, rfl⟩
  rw [hrows] at hkey
  cases hkey

theorem unsigned_of_mem_selectorsOf (h : Placed item now keys files rows)
    (hids : ∀ f ∈ files, 0 ≤ f.file.id) {s : FileSelector} (hs : s ∈ selectorsOf item keys files) :
    s.Unsigned := by
  rcases List.mem_cons.1 hs with rfl | hbelow
  · trivial
  · obtain ⟨s', hs', hin⟩ := List.mem_flatMap.1 hbelow
    obtain ⟨f, hf, hgroup⟩ := (h.mem_keys_iff s').1 hs'
    rcases mem_selectorsBelow ⟨f, hf, hgroup⟩ hin with ⟨rfl, -⟩ | ⟨g, hg, rfl⟩
    · exact hgroup ▸ Item.unsigned_groupOf (hids f hf)
    · exact hids g (Item.mem_membersOf.1 hg).1

end Placed

end Row

end SeedCleanup

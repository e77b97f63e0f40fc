import SeedCleanup.Proofs.RowTree
import SeedCleanup.Proofs.RunTheorems

/-!
# A row shows what its id deletes

The id of each row of a title can be read back, and it names exactly the files that are shown below
the row. Size, decision and status of the row are those of these files (`Row.Addresses`).
-/

namespace SeedCleanup

/-! ## Files that an id names -/

namespace Item

variable {item : Item}

/-- With an id of its own, a file is all that its id names. -/
theorem selected_file (hnodup : (item.linked.files.map (·.file.id)).Nodup) {f : LinkedFile}
    (hf : f ∈ item.linked.files) : item.selected (item.idOf (.file f.file.id)) = [f] := by
  show item.linked.files.filter (fun g => g.file.id == f.file.id) = [f]
  obtain ⟨before, after, hsplit⟩ := List.append_of_mem hf
  rw [hsplit, List.map_append, List.map_cons, List.nodup_append, List.nodup_cons] at hnodup
  obtain ⟨-, ⟨hafter, -⟩, hbefore⟩ := hnodup
  have hnone : before.filter (fun g => g.file.id == f.file.id) = [] := by
    rw [List.filter_eq_nil_iff]
    intro g hg heq
    exact hbefore _ (List.mem_map_of_mem hg) _ List.mem_cons_self (eq_of_beq heq)
  have hnone' : after.filter (fun g => g.file.id == f.file.id) = [] := by
    rw [List.filter_eq_nil_iff]
    intro g hg heq
    exact hafter (eq_of_beq heq ▸ List.mem_map_of_mem hg)
  rw [hsplit, List.filter_append, List.filter_cons, hnone, hnone', beq_self_eq_true, if_pos rfl,
    List.nil_append]

/-- A season that is shown names the files of its group. -/
theorem selected_season {n : Int32} (h : ∃ f ∈ item.linked.files, item.groupOf f = .season n) :
    item.selected (item.idOf (.season n)) = item.membersOf item.linked.files (.season n) := by
  obtain ⟨f, -, hgroup⟩ := h
  obtain ⟨hkind, hn, -⟩ := groupOf_eq_season_iff.1 hgroup
  refine List.filter_congr fun g _ => ?_
  show (g.file.season == n) = (item.groupOf g == .season n)
  rw [Bool.eq_iff_iff, beq_iff_eq, beq_iff_eq, groupOf_eq_season_iff]
  simp [hkind, hn]

theorem selected_all : item.selected (item.idOf .all) = item.linked.files :=
  List.filter_eq_self.2 fun _ _ => rfl

/-- The verdicts that a season or a title is judged by are those on its files. -/
theorem Coherent.map_decisionOn (h : item.Coherent) (p : MediaFile → Bool) :
    (item.linked.files.filter fun f => p f.file).map item.report.decisionOn
      = ((Report.verdictsOn item.linked item.report.files p).map (·.decision)).map some := by
  let verdict (f : LinkedFile) : Verdict := (item.report.files.get? f.file.id).getD default
  have hverdict : ∀ f ∈ item.linked.files,
      item.report.files.get? f.file.id = some (verdict f) := by
    intro f hf
    obtain ⟨v, hv⟩ := h.exists_verdict hf
    simp only [verdict, hv, Option.getD_some]
  rw [Report.verdictsOn_eq_map hverdict, List.map_map, List.map_map]
  refine List.map_congr_left fun f hf => ?_
  show (item.report.files.get? f.file.id).map _ = some _
  rw [hverdict f (List.mem_filter.1 hf).1]
  rfl

/-- A season that is shown has a verdict, which is the strictest of those on its files. -/
theorem Coherent.exists_seasonVerdict (h : item.Coherent) {n : Int32}
    (hn : ∃ f ∈ item.linked.files, item.groupOf f = .season n) :
    ∃ v, item.report.seasons.get? n = some v ∧ v.decision = Decision.worstOf
      ((Report.verdictsOn item.linked item.report.files (·.season == n)).map (·.decision)) := by
  obtain ⟨f, hf, hgroup⟩ := hn
  obtain ⟨hkind, hpos, rfl⟩ := groupOf_eq_season_iff.1 hgroup
  have hseason := Report.get?_seasons item.linked item.report.files f.file.season
  rw [← h.report_eq, if_pos ⟨hkind, hpos⟩] at hseason
  cases hfold : Verdict.fold? (Report.verdictsOn item.linked item.report.files
      (·.season == f.file.season)) with
  | none =>
    -- the file that belongs to the season has a verdict, so there is something to fold
    have hmap := h.map_decisionOn (·.season == f.file.season)
    rw [Verdict.fold?_eq_none_iff.1 hfold, List.map_nil, List.map_nil, List.map_eq_nil_iff,
      List.filter_eq_nil_iff] at hmap
    exact absurd (beq_self_eq_true _) (hmap f hf)
  | some v => exact ⟨v, hseason.trans hfold, Verdict.decision_of_fold? hfold⟩

end Item

/-! ## Rows and their ids -/

namespace Row

/-- A row has the id of some files and shows exactly these: they are the leaves below it, each once
and in order if they are a season, and size, decision and status of the row are theirs. -/
structure Addresses (item : Item) (now : Instant) (row : Row) (m : MediaId) : Prop where
  parse_id : MediaId.parse row.id = some m
  kind_eq : m.kind = item.linked.title.kind
  id_eq : m.id = item.linked.title.id
  leaves : ∃ files, List.Forall₂ (ShowsFile item now) files row.leaves ∧
    files.Perm (item.selected m) ∧ ∀ n, m.selector = .season n → files = item.selected m
  size_eq : row.size.toNat = bytesOf (item.selected m)
  decision_eq : ∃ decisions, (item.selected m).map item.report.decisionOn = decisions.map some ∧
    row.decision = Decision.worstOf decisions
  status_eq : row.torrent.status = LinkStatus.ofFiles (item.selected m)

variable {item : Item} {now : Instant}

/-- The row of a file has the id of the file. -/
theorem addresses_file (hitem : item.Coherent) (htitle : 0 ≤ item.linked.title.id)
    (hnodup : (item.linked.files.map (·.file.id)).Nodup) {f : LinkedFile}
    (hf : f ∈ item.linked.files) (hid : 0 ≤ f.file.id) {row : Row} (h : ShowsFile item now f row) :
    row.Addresses item now (item.idOf (.file f.file.id)) := by
  have hselected := Item.selected_file hnodup hf
  refine ⟨?_, rfl, rfl, ⟨[f], ?_, ?_, ?_⟩, ?_, ?_, ?_⟩
  · rw [h.id_eq]
    exact MediaId.parse_text ⟨htitle, hid⟩
  · rw [leaves_of_children_eq_nil h.children_eq]
    exact .cons h .nil
  · rw [hselected]
  · intro n hn
    cases hn
  · rw [hselected, h]
    rfl
  · obtain ⟨v, hv⟩ := hitem.exists_verdict hf
    refine ⟨[v.decision], ?_, ?_⟩
    · simp only [hselected, Report.decisionOn, List.map_cons, List.map_nil, hv, Option.map_some]
    · rw [h]
      show ((item.report.files.get? f.file.id).map (·.decision)).getD _ = _
      rw [hv, Decision.worstOf, List.foldl_cons, List.foldl_nil, Decision.safeToDelete_worst]
      rfl
  · rw [hselected, h]
    exact status_torrent_ofFile f

/-- The row of a season has the id of the season. -/
theorem addresses_season (hitem : item.Coherent) (htitle : 0 ≤ item.linked.title.id)
    (hsize : bytesOf item.linked.files < UInt64.size) {n : Int32}
    (hn : ∃ f ∈ item.linked.files, item.groupOf f = .season n) {row : Row}
    (h : Shows item now (.season n) (item.membersOf item.linked.files (.season n)) row) :
    row.guardSeason.Addresses item now (item.idOf (.season n)) := by
  have hselected := Item.selected_season hn
  have hleaves := h.leaves_guardSeason
  obtain ⟨v, hv, hworst⟩ := hitem.exists_seasonVerdict hn
  -- id, size, decision and status are those of the row before it was guarded
  obtain ⟨children, hguard, -⟩ := row.guardSeason_eq
  obtain ⟨f, hf, hgroup⟩ := hn
  obtain ⟨hkind, hpos, rfl⟩ := Item.groupOf_eq_season_iff.1 hgroup
  refine ⟨?_, rfl, rfl, ⟨_, hleaves, ?_, ?_⟩, ?_, ?_, ?_⟩
  · rw [hguard]
    show MediaId.parse row.id = _
    rw [h.id_eq]
    exact MediaId.parse_text ⟨htitle, Int32.le_of_lt hpos⟩
  · rw [hselected]
  · exact fun _ _ => hselected.symm
  · rw [hguard, hselected]
    show row.size.toNat = _
    have hle : bytesOf (item.membersOf item.linked.files (.season f.file.season))
        ≤ bytesOf item.linked.files := bytesOf_le_of_sublist List.filter_sublist
    rw [h.toNat_size, Nat.mod_eq_of_lt (Nat.lt_of_le_of_lt hle hsize)]
  · refine ⟨_, hitem.map_decisionOn (·.season == f.file.season), ?_⟩
    rw [hguard]
    show row.decision = _
    rw [h.decision_season hv, hworst]
  · rw [hguard, hselected]
    exact h.status_eq

/-! ## Titles -/

theorem status_foldl_combine (f : LinkedFile) (rest : List LinkedFile) :
    ((rest.map fun g => (ofFile item now g).torrent).foldl TorrentInfo.combine
        (ofFile item now f).torrent).status = LinkStatus.ofFiles (f :: rest) := by
  induction rest using List.reverseRecOn with
  | nil => exact status_torrent_ofFile f
  | append_singleton rest g ih =>
    rw [List.map_append, List.foldl_append]
    show (TorrentInfo.combine _ (ofFile item now g).torrent).status = _
    rw [TorrentInfo.status_combine, ih, status_torrent_ofFile,
      LinkStatus.combine_ofFiles (List.cons_ne_nil _ _), List.cons_append]

/-- The row of a title has the id of the title. -/
theorem addresses_title (hitem : item.Coherent) (htitle : 0 ≤ item.linked.title.id)
    (hsize : bytesOf item.linked.files < UInt64.size) {keys : List FileSelector}
    (h : Placed item now keys item.linked.files (item.linked.files.foldl (place item now) [])) :
    (ofItem item now).Addresses item now (item.idOf .all) := by
  have hselected := item.selected_all
  have hmap := hitem.map_decisionOn fun _ => true
  have hresult := Report.decision_result item.linked item.report.files
  rw [← hitem.report_eq] at hresult
  refine ⟨?_, rfl, rfl, ⟨keys.flatMap (item.membersOf item.linked.files), ?_, ?_, ?_⟩, ?_, ?_, ?_⟩
  · exact MediaId.parse_text ⟨htitle, trivial⟩
  · rw [leaves_of_children_ne_nil]
    · exact forall₂_leaves h.rows
    · exact h.children_ne_nil hitem.files_ne_nil
  · rw [hselected]
    exact Item.perm_flatMap_membersOf h.nodup fun f hf => (h.mem_keys_iff _).2 ⟨f, hf, rfl⟩
  · intro n hn
    cases hn
  · rw [hselected]
    exact hitem.size_eq hsize
  · exact ⟨_, hmap, hresult⟩
  · rw [hselected]
    obtain ⟨f, rest, hfiles⟩ := List.exists_cons_of_ne_nil hitem.files_ne_nil
    show (TorrentInfo.fold (item.linked.files.map fun f => (ofFile item now f).torrent)).status = _
    rw [hfiles]
    exact status_foldl_combine f rest

/-! ## Trees -/

section

variable {keys : List FileSelector}
  (h : Placed item now keys item.linked.files (item.linked.files.foldl (place item now) []))

include h

theorem map_id_subrows_ofItem :
    (ofItem item now).subrows.map (·.id)
      = (selectorsOf item keys item.linked.files).map fun s => (item.idOf s).text := by
  rw [subrows_eq, children_ofItem, List.map_cons, map_id_flatMap_subrows h.rows]
  rfl

/-- No two rows of a tree have one id. -/
theorem nodup_ids (htitle : 0 ≤ item.linked.title.id)
    (hids : ∀ f ∈ item.linked.files, 0 ≤ f.file.id)
    (hnodup : (item.linked.files.map (·.file.id)).Nodup) :
    ((ofItem item now).subrows.map (·.id)).Nodup := by
  rw [map_id_subrows_ofItem h]
  refine (h.nodup_selectorsOf hnodup).map_on fun s hs s' hs' heq => ?_
  exact (Item.text_idOf_inj htitle (h.unsigned_of_mem_selectorsOf hids hs)
    (h.unsigned_of_mem_selectorsOf hids hs')).1 heq

/-- Seasons have rows exactly when files of a series belong to them. -/
theorem exists_season_iff (htitle : 0 ≤ item.linked.title.id)
    (hids : ∀ f ∈ item.linked.files, 0 ≤ f.file.id) {n : Int32} :
    (∃ row ∈ (ofItem item now).subrows, MediaId.parse row.id = some (item.idOf (.season n)))
      ↔ item.linked.title.kind = .series ∧ 0 < n ∧ ∃ f ∈ item.linked.files, f.file.season = n := by
  have hmem : (∃ row ∈ (ofItem item now).subrows,
        MediaId.parse row.id = some (item.idOf (.season n)))
      ↔ .season n ∈ selectorsOf item keys item.linked.files := by
    have hid : ∀ s ∈ selectorsOf item keys item.linked.files,
        MediaId.parse (item.idOf s).text = some (item.idOf s) :=
      fun s hs => MediaId.parse_text ⟨htitle, h.unsigned_of_mem_selectorsOf hids hs⟩
    constructor
    · rintro ⟨row, hrow, hparse⟩
      have hrowid := List.mem_map_of_mem (f := (·.id)) hrow
      rw [map_id_subrows_ofItem h] at hrowid
      obtain ⟨s, hs, heq⟩ := List.mem_map.1 hrowid
      rw [← heq, hid s hs, Option.some.injEq, Item.idOf, Item.idOf, MediaId.mk.injEq] at hparse
      rwa [← hparse.2.2]
    · intro hin
      have hrowid := List.mem_map_of_mem (f := fun s => (item.idOf s).text) hin
      rw [← map_id_subrows_ofItem h] at hrowid
      obtain ⟨row, hrow, heq⟩ := List.mem_map.1 hrowid
      refine ⟨row, hrow, ?_⟩
      rw [heq, hid _ hin]
  rw [hmem, h.season_mem_selectorsOf_iff]
  simp only [Item.groupOf_eq_season_iff]
  constructor
  · rintro ⟨f, hf, hkind, hn, hseason⟩
    exact ⟨hkind, hn, f, hf, hseason⟩
  · rintro ⟨hkind, hn, f, hf, hseason⟩
    exact ⟨f, hf, hkind, hn, hseason⟩

/-- Every file has one leaf. -/
theorem existsUnique_leaf (hnodup : ((ofItem item now).subrows.map (·.id)).Nodup)
    (hfiles : item.linked.files ≠ []) {f : LinkedFile} (hf : f ∈ item.linked.files) :
    ∃! leaf, leaf ∈ (ofItem item now).leaves ∧ ShowsFile item now f leaf := by
  have hleaves : List.Forall₂ (ShowsFile item now)
      (keys.flatMap (item.membersOf item.linked.files)) (ofItem item now).leaves := by
    rw [leaves_of_children_ne_nil (h.children_ne_nil hfiles)]
    exact forall₂_leaves h.rows
  have hmem : f ∈ keys.flatMap (item.membersOf item.linked.files) := by
    rw [List.mem_flatMap]
    exact ⟨_, (h.mem_keys_iff _).2 ⟨f, hf, rfl⟩, Item.mem_membersOf.2 ⟨hf, rfl⟩⟩
  obtain ⟨leaf, hleaf, hshows⟩ := exists_of_mem_of_forall₂ hleaves.flip hmem
  refine ⟨leaf, ⟨hleaf, hshows⟩, ?_⟩
  rintro other ⟨hother, hshows'⟩
  have hid : other.id = leaf.id := by
    rw [ShowsFile.id_eq hshows', ShowsFile.id_eq hshows]
  exact List.inj_on_of_nodup_map hnodup (List.mem_filter.1 hother).1 (List.mem_filter.1 hleaf).1 hid

/-- Every row of a tree has an id that names what it shows. -/
theorem exists_addresses (hitem : item.Coherent) (htitle : 0 ≤ item.linked.title.id)
    (hids : ∀ f ∈ item.linked.files, 0 ≤ f.file.id)
    (hnodup : (item.linked.files.map (·.file.id)).Nodup)
    (hsize : bytesOf item.linked.files < UInt64.size) :
    ∀ row ∈ (ofItem item now).subrows, ∃ m, row.Addresses item now m := by
  intro row hrow
  have hfile : ∀ f ∈ item.linked.files, ShowsFile item now f row →
      ∃ m, row.Addresses item now m :=
    fun f hf hshows => ⟨_, addresses_file hitem htitle hnodup hf (hids f hf) hshows⟩
  rw [subrows_eq, List.mem_cons, children_ofItem, List.mem_flatMap] at hrow
  obtain rfl | ⟨child, hchild, hrow⟩ := hrow
  · exact ⟨_, addresses_title hitem htitle hsize h⟩
  · obtain ⟨group, hgroup, rfl⟩ := List.mem_map.1 hchild
    obtain ⟨s, hs, hshows⟩ := exists_of_mem_of_forall₂ h.rows hgroup
    cases s with
    | all => cases hshows
    | file id =>
      obtain ⟨f, hmembers, -, rfl⟩ := hshows.eq_ofFile
      rw [guardSeason_of_children_eq_nil rfl, subrows_of_children_eq_nil rfl,
        List.mem_singleton] at hrow
      have hf : f ∈ item.membersOf item.linked.files (.file id) := by
        rw [hmembers]
        exact List.mem_cons_self
      rw [hrow] at hfile ⊢
      exact hfile f (Item.mem_membersOf.1 hf).1 (showsFile_ofFile f)
    | season n =>
      have hchildren := hshows.children_guardSeason
      rw [subrows_eq, (flatMap_of_showsFile hchildren).1, List.mem_cons] at hrow
      obtain rfl | hrow := hrow
      · exact ⟨_, addresses_season hitem htitle hsize ((h.mem_keys_iff _).1 hs) hshows⟩
      · obtain ⟨f, hf, hshown⟩ := exists_of_mem_of_forall₂ hchildren hrow
        exact hfile f (Item.mem_membersOf.1 hf).1 hshown

end

end Row

namespace Inventory

variable {μ τ ρ : Type} {b : Backends μ τ ρ}

/-- In the tree of an item that a run can reach, every row has an id that names exactly the files
that the row shows, every file has one leaf, no two rows have one id, and the seasons that have rows
are those of a series to which files belong. -/
theorem rows_of_run {s : Inventory μ τ ρ} {last : Option Publication} (hrun : Run b s last)
    {items : List Item} (hitems : s.items = some items) {item : Item} (hitem : item ∈ items)
    (htitle : 0 ≤ item.linked.title.id) (hids : ∀ f ∈ item.linked.files, 0 ≤ f.file.id)
    (hnodup : (item.linked.files.map (·.file.id)).Nodup)
    (hsize : bytesOf item.linked.files < UInt64.size) (now : Instant) :
    (∀ row ∈ (Row.ofItem item now).subrows, ∃ m, row.Addresses item now m) ∧
    (∀ f ∈ item.linked.files,
      ∃! leaf, leaf ∈ (Row.ofItem item now).leaves ∧ Row.ShowsFile item now f leaf) ∧
    ((Row.ofItem item now).subrows.map (·.id)).Nodup ∧
    ∀ n : Int32, (∃ row ∈ (Row.ofItem item now).subrows,
        MediaId.parse row.id = some (item.idOf (.season n)))
      ↔ item.linked.title.kind = .series ∧ 0 < n ∧ ∃ f ∈ item.linked.files, f.file.season = n := by
  -- of the run it only matters that the item is coherent
  obtain ⟨p, -, hrest⟩ := hrun.restsOn items hitems
  have hcoherent : item.Coherent := hrest.coherent item hitem
  obtain ⟨keys, hplaced⟩ : ∃ keys, Row.Placed item now keys item.linked.files _ :=
    Row.exists_placed htitle hids hnodup
  have hunique := Row.nodup_ids hplaced htitle hids hnodup
  exact ⟨Row.exists_addresses hplaced hcoherent htitle hids hnodup hsize,
    fun f hf => Row.existsUnique_leaf hplaced hunique hcoherent.files_ne_nil hf, hunique,
    fun n => Row.exists_season_iff hplaced htitle hids⟩

end Inventory

/-! ## A series with a file that belongs to no season -/

namespace Sample

def series : MediaEntry :=
  ⟨⟨5, .series, "Beta", "", ⟨0, 0⟩⟩,
    [⟨20, 1, "one.mkv", 100⟩, ⟨21, 0, "extras.mkv", 200⟩, ⟨22, 1, "two.mkv", 300⟩]⟩

/-- The sample inventory with a series instead of a movie, after a refresh. -/
def withSeries : Inventory StandInLibrary StandInClient Trackers :=
  let unread : Inventory StandInLibrary StandInClient Trackers :=
    { inventory with media := { backend := [series] } }
  (unread.perform backends ⟨0, 0⟩ .refresh).2

/-- The item of the series, whose files have no torrents. -/
def seriesItem : Item := rules.item ⟨0, 0⟩ ⟨series.title, series.files.map (·.link [torrent])⟩

end Sample

open Sample in
theorem rows_of_series :
    (∀ row ∈ (Row.ofItem seriesItem ⟨0, 0⟩).subrows, ∃ m, row.Addresses seriesItem ⟨0, 0⟩ m) ∧
    (Row.ofItem seriesItem ⟨0, 0⟩).subrows.map (·.id)
      = ["series-5", "series-5-s-1", "series-5-20", "series-5-22", "series-5-21"] := by
  have hrun : Inventory.Run backends withSeries _ := .request ⟨0, 0⟩ .refresh (.start rfl)
  have hitems : withSeries.items = some [seriesItem] := rfl
  have hrows := Inventory.rows_of_run hrun hitems List.mem_cons_self (by decide) (by decide)
    (by decide) (by decide) ⟨0, 0⟩
  exact ⟨hrows.1, rfl⟩

end SeedCleanup

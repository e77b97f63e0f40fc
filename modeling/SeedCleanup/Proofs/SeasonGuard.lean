import SeedCleanup.Proofs.RowSelection

/-!
# Files that only go with their season

The files below a season offer deletion unless the season looks as if it came from one torrent:
all its files are linked, and the torrents agree in ratio and age (`SeededAlike`). Different
torrents that agree are taken for one.
-/

namespace SeedCleanup

/-! ## What a season says about torrents -/

/-- Whether files look as if they came from one torrent: all are linked, and their torrents have the
ratio and the age of the first one. -/
def SeededAlike (now : Instant) (files : List LinkedFile) : Prop :=
  ∃ f t rest, files = f :: rest ∧ f.torrent = some t ∧
    ∀ g ∈ rest, ∃ t', g.torrent = some t' ∧ t.ratio.eqv t'.ratio = true ∧
      now.since t.added = now.since t'.added

namespace TorrentInfo

theorem ratio_combine (a b : TorrentInfo) :
    (a.combine b).ratio = if a.agrees b then a.ratio else none := by
  unfold combine
  split <;> rfl

/-- A ratio survives if all the rest agrees with what came first. -/
theorem ratio_foldl_combine (i : TorrentInfo) (rest : List TorrentInfo) :
    (rest.foldl combine i).ratio = if rest.all i.agrees then i.ratio else none := by
  induction rest generalizing i with
  | nil => rfl
  | cons j rest ih =>
    rw [List.foldl_cons, ih, List.all_cons, ratio_combine]
    cases hagrees : i.agrees j with
    | true =>
      rw [combine, if_pos hagrees]
      rfl
    | false =>
      -- a ratio that was cleared stays so
      simp

end TorrentInfo

namespace Row

variable {item : Item} {now : Instant}

theorem ratio_torrent_ofFile (f : LinkedFile) :
    (ofFile item now f).torrent.ratio = f.torrent.map (·.ratio) := by
  show (torrentOfFile _ f now).ratio = _
  unfold torrentOfFile
  cases f.torrent <;> rfl

/-- A linked file agrees with another if that is linked as well, to a torrent of the same ratio and
age. -/
theorem agrees_ofFile_iff {f g : LinkedFile} {t : Torrent} (ht : f.torrent = some t) :
    (ofFile item now f).torrent.agrees (ofFile item now g).torrent = true
      ↔ ∃ t', g.torrent = some t' ∧ t.ratio.eqv t'.ratio = true ∧
          now.since t.added = now.since t'.added := by
  show (torrentOfFile _ f now).agrees (torrentOfFile _ g now) = true ↔ _
  cases hg : g.torrent with
  | none => simp [torrentOfFile, ht, hg, TorrentInfo.agrees, TorrentInfo.unlinked]
  | some t' => simp [torrentOfFile, ht, hg, TorrentInfo.agrees, TorrentInfo.sameRatio]

namespace Shows

variable {files : List LinkedFile} {row : Row} {n : Int32}

/-- What a season says about torrents starts with its first file and takes in the others. -/
theorem torrent_eq (h : Shows item now (.season n) files row) :
    ∃ f rest tracker, files = f :: rest ∧
      row.torrent = (rest.map fun g => (ofFile item now g).torrent).foldl TorrentInfo.combine
        { (ofFile item now f).torrent with tracker := tracker } := by
  generalize hs : FileSelector.season n = s at h
  induction h with
  | file f => cases hs
  | season f => exact ⟨f, [], _, rfl, rfl⟩
  | addFile g h ih =>
    obtain ⟨f, rest, tracker, hfiles, htorrent⟩ := ih hs
    refine ⟨f, rest ++ [g], tracker, by rw [hfiles, List.cons_append], ?_⟩
    rw [List.map_append, List.foldl_append, ← htorrent]
    rfl

/-- The ratio of a season is told exactly when its files look as if they came from one torrent. -/
theorem isSome_ratio_iff (h : Shows item now (.season n) files row) :
    row.torrent.ratio.isSome = true ↔ SeededAlike now files := by
  obtain ⟨f, rest, tracker, rfl, htorrent⟩ := h.torrent_eq
  have hratio : (ofFile item now f).torrent.ratio = f.torrent.map (·.ratio) :=
    ratio_torrent_ofFile f
  -- the tracker of the season plays no part in the comparison
  have hagrees (g : LinkedFile) :
      ({ (ofFile item now f).torrent with tracker := tracker } : TorrentInfo).agrees
          (ofFile item now g).torrent
        = (ofFile item now f).torrent.agrees (ofFile item now g).torrent := rfl
  rw [htorrent, TorrentInfo.ratio_foldl_combine, List.all_map]
  simp only [Function.comp_def, hagrees]
  rw [hratio]
  constructor
  · intro hsome
    split at hsome
    · rename_i hall
      obtain ⟨t, ht⟩ := Option.isSome_iff_exists.1 (Option.isSome_map.symm.trans hsome)
      exact ⟨f, t, rest, rfl, ht, fun g hg =>
        (agrees_ofFile_iff ht).1 (List.all_eq_true.1 hall g hg)⟩
    · cases hsome
  · rintro ⟨_, t, _, heq, ht, hrest⟩
    obtain ⟨rfl, rfl⟩ := List.cons.inj heq
    have hall : (rest.all fun g =>
        (ofFile item now f).torrent.agrees (ofFile item now g).torrent) = true :=
      List.all_eq_true.2 fun g hg => (agrees_ofFile_iff ht).2 (hrest g hg)
    rw [if_pos hall, ht]
    rfl

end Shows

/-! ## Changing the first row with an id -/

theorem updateFirst?_eq_some {id : String} {change : Row → Row} {rows rows' : List Row}
    (h : updateFirst? id change rows = some rows') :
    ∃ before row after, rows = before ++ row :: after ∧ row.id = id ∧
      rows' = before ++ change row :: after := by
  induction rows generalizing rows' with
  | nil => cases h
  | cons row rest ih =>
    unfold updateFirst? at h
    split at h
    · rename_i hid
      exact ⟨[], row, rest, rfl, hid, (Option.some.inj h).symm⟩
    · obtain ⟨rest', hrest, rfl⟩ := Option.map_eq_some_iff.1 h
      obtain ⟨before, found, after, rfl, hid, rfl⟩ := ih hrest
      exact ⟨row :: before, found, after, rfl, hid, rfl⟩

theorem forall_ne_of_updateFirst?_eq_none {id : String} {change : Row → Row} {rows : List Row}
    (h : updateFirst? id change rows = none) : ∀ row ∈ rows, row.id ≠ id := by
  induction rows with
  | nil => simp
  | cons row rest ih =>
    unfold updateFirst? at h
    split at h
    · cases h
    · rename_i hid
      exact List.forall_mem_cons.2 ⟨hid, ih (Option.map_eq_none_iff.1 h)⟩

/-! ## What stands below a title, whatever its ids are -/

/-- A row below a title is that of a file, or it shows the files of a season that were placed. -/
inductive IsBelow (item : Item) (now : Instant) (files : List LinkedFile) : Row → Prop
  | file (f : LinkedFile) (hmem : f ∈ files) : IsBelow item now files (ofFile item now f)
  | season {n : Int32} {row : Row}
      (h : Shows item now (.season n) (item.membersOf files (.season n)) row) :
      IsBelow item now files row

/-- What stands below a title after some files were placed: rows of files and of seasons, one for
each season that was met. Files may share their ids. -/
structure Arranged (item : Item) (now : Instant) (files : List LinkedFile) (rows : List Row) :
    Prop where
  isBelow : ∀ row ∈ rows, IsBelow item now files row
  count_le : ∀ n, (rows.map (·.id)).count (item.idOf (.season n)).text ≤ 1
  mem_ids : ∀ f ∈ files, ∀ n, item.groupOf f = .season n →
    (item.idOf (.season n)).text ∈ rows.map (·.id)

theorem IsBelow.shows {files : List LinkedFile} {row : Row} (h : IsBelow item now files row)
    {n : Int32} (hid : row.id = (item.idOf (.season n)).text) :
    Shows item now (.season n) (item.membersOf files (.season n)) row := by
  -- neither a file nor another season has that id
  cases h with
  | file f =>
    cases MediaId.text_eq_text_season_iff.1 hid
  | @season m _ h =>
    cases MediaId.text_eq_text_season_iff.1 (h.id_eq.symm.trans hid)
    exact h

/-- A row stays as it is when a file is placed that does not belong to it. -/
theorem IsBelow.append {files : List LinkedFile} {row : Row} (h : IsBelow item now files row)
    {f : LinkedFile}
    (hne : ∀ n, item.groupOf f = .season n → row.id ≠ (item.idOf (.season n)).text) :
    IsBelow item now (files ++ [f]) row := by
  cases h with
  | file g hmem => exact .file g (List.mem_append_left _ hmem)
  | @season n _ h =>
    refine .season (n := n) ?_
    rw [Item.membersOf_append_of_ne fun hgroup => hne n hgroup h.id_eq]
    exact h

namespace Arranged

variable {files : List LinkedFile} {rows : List Row} {f : LinkedFile} {n : Int32}

theorem nil : Arranged item now [] [] := ⟨by simp, by simp, by simp⟩

/-- A row is added for a file. If it is that of a season, the season had none before. -/
theorem addRow {row : Row} (h : Arranged item now files rows)
    (hrow : IsBelow item now (files ++ [f]) row)
    (hgroup : ∀ n, item.groupOf f = .season n → row.id = (item.idOf (.season n)).text)
    (hnew : ∀ n, row.id = (item.idOf (.season n)).text →
      ∀ other ∈ rows, other.id ≠ (item.idOf (.season n)).text) :
    Arranged item now (files ++ [f]) (rows ++ [row]) := by
  refine ⟨?_, fun n => ?_, fun g hg n hg' => ?_⟩
  · rw [List.forall_mem_append, List.forall_mem_singleton]
    exact ⟨fun other hother => (h.isBelow other hother).append fun n hf =>
      hnew n (hgroup n hf) other hother, hrow⟩
  · rw [List.map_append, List.count_append, List.map_singleton]
    by_cases hid : row.id = (item.idOf (.season n)).text
    · have hnot : (item.idOf (.season n)).text ∉ rows.map (·.id) := by
        rw [List.mem_map]
        rintro ⟨other, hother, heq⟩
        exact hnew n hid other hother heq
      rw [List.count_eq_zero.2 hnot, Nat.zero_add]
      exact List.count_le_length
    · rw [List.count_eq_zero.2 (mt List.mem_singleton.1 (Ne.symm hid))]
      exact h.count_le n
  · rw [List.map_append]
    rcases List.mem_append.1 hg with hg | hg
    · exact List.mem_append_left _ (h.mem_ids g hg n hg')
    · rw [List.mem_singleton.1 hg] at hg'
      rw [← hgroup n hg']
      exact List.mem_append_right _ List.mem_cons_self

/-- A file without a season gets a row of its own. -/
theorem addFile (h : Arranged item now files rows) (hf : item.groupOf f = .file f.file.id) :
    Arranged item now (files ++ [f]) (rows ++ [ofFile item now f]) := by
  refine h.addRow (.file f (List.mem_append_right _ List.mem_cons_self)) (fun n hgroup => ?_)
    fun n hid => ?_
  · cases hf.symm.trans hgroup
  · cases MediaId.text_eq_text_season_iff.1 hid

/-- A season that was not met before gets a row. -/
theorem addSeason (h : Arranged item now files rows) (hf : item.groupOf f = .season f.file.season)
    (hnew : ∀ row ∈ rows, row.id ≠ (item.idOf (.season f.file.season)).text) :
    Arranged item now (files ++ [f]) (rows ++ [ofSeason item f.file.season
      (item.idOf (.season f.file.season)).text (ofFile item now f)]) := by
  have hnone : ∀ g ∈ files, item.groupOf g ≠ .season f.file.season := by
    intro g hg hgroup
    obtain ⟨row, hrow, hid⟩ := List.mem_map.1 (h.mem_ids g hg _ hgroup)
    exact hnew row hrow hid
  have hmembers : item.membersOf (files ++ [f]) (.season f.file.season) = [f] := by
    rw [Item.membersOf_append_of_eq hf, Item.membersOf_eq_nil hnone, List.nil_append]
  refine h.addRow (.season (n := f.file.season) ?_) (fun n hgroup => ?_) fun n hid => ?_
  · rw [hmembers]
    exact .season f
  · rw [← FileSelector.season.inj (hf.symm.trans hgroup)]
    rfl
  · rw [← FileSelector.season.inj (MediaId.text_eq_text_season_iff.1 hid)]
    exact hnew

/-- No other row has the id of a season. -/
theorem forall_ne {before after : List Row} {row : Row}
    (h : Arranged item now files (before ++ row :: after))
    (hid : row.id = (item.idOf (.season n)).text) :
    ∀ other, other ∈ before ∨ other ∈ after → other.id ≠ (item.idOf (.season n)).text := by
  have hcount := h.count_le n
  rw [List.map_append, List.count_append, List.map_cons, hid, List.count_cons_self] at hcount
  have hpos {rows : List Row} {other : Row} (hother : other ∈ rows)
      (heq : other.id = (item.idOf (.season n)).text) :
      0 < (rows.map (·.id)).count (item.idOf (.season n)).text :=
    List.count_pos_iff.2 (List.mem_map.2 ⟨other, hother, heq⟩)
  rintro other (hother | hother) heq
  · have hbefore := hpos hother heq
    omega
  · have hafter := hpos hother heq
    omega

/-- A file of a season that was met before is added to the row of the season. -/
theorem addToSeason {before after : List Row} {row : Row}
    (h : Arranged item now files (before ++ row :: after)) (hf : item.groupOf f = .season n)
    (hid : row.id = (item.idOf (.season n)).text) :
    Arranged item now (files ++ [f]) (before ++ row.addFile (ofFile item now f) :: after) := by
  have hids : (before ++ row.addFile (ofFile item now f) :: after).map (·.id)
      = (before ++ row :: after).map (·.id) := by
    rw [List.map_append, List.map_append]
    rfl
  -- the season has this row only, so all others show what they showed
  have hother : ∀ other, other ∈ before ∨ other ∈ after →
      IsBelow item now (files ++ [f]) other := by
    intro other hmem
    have hbelow : IsBelow item now files other := by
      refine h.isBelow other (List.mem_append.2 ?_)
      exact hmem.imp_right (List.mem_cons_of_mem _)
    refine hbelow.append fun m hgroup => ?_
    rw [← FileSelector.season.inj (hf.symm.trans hgroup)]
    exact h.forall_ne hid other hmem
  refine ⟨?_, fun m => ?_, fun g hg m hgroup => ?_⟩
  · rw [List.forall_mem_append, List.forall_mem_cons]
    refine ⟨fun other hmem => hother other (.inl hmem), .season (n := n) ?_,
      fun other hmem => hother other (.inr hmem)⟩
    rw [Item.membersOf_append_of_eq hf]
    have hrow : IsBelow item now files row :=
      h.isBelow row (List.mem_append_right _ List.mem_cons_self)
    exact (hrow.shows hid).addFile f
  · rw [hids]
    exact h.count_le m
  · rw [hids]
    rcases List.mem_append.1 hg with hg | hg
    · exact h.mem_ids g hg m hgroup
    · rw [List.mem_singleton.1 hg] at hgroup
      rw [← FileSelector.season.inj (hf.symm.trans hgroup), ← hid]
      exact List.mem_map_of_mem (List.mem_append_right _ List.mem_cons_self)

theorem place (h : Arranged item now files rows) (f : LinkedFile) :
    Arranged item now (files ++ [f]) (Row.place item now rows f) := by
  unfold Row.place
  simp only
  split
  · rename_i hseason
    have hgroup : item.groupOf f = .season f.file.season := if_pos hseason
    split
    · rename_i rows' hupdate
      obtain ⟨before, row, after, rfl, hid, rfl⟩ := updateFirst?_eq_some hupdate
      exact h.addToSeason hgroup hid
    · rename_i hupdate
      exact h.addSeason hgroup (forall_ne_of_updateFirst?_eq_none hupdate)
  · rename_i hseason
    exact h.addFile (if_neg hseason)

end Arranged

/-- Placing files one after the other arranges them. -/
theorem arranged_foldl (files : List LinkedFile) :
    Arranged item now files (files.foldl (place item now) []) := by
  -- `foldl` places the last file last, so the induction takes files off the end
  induction files using List.reverseRecOn with
  | nil => exact .nil
  | append_singleton files f ih =>
    rw [List.foldl_append]
    exact ih.place f

/-! ## Which rows offer deletion -/

theorem Shows.allowDeletion {s : FileSelector} {files : List LinkedFile} {row : Row}
    (h : Shows item now s files row) : row.allowDeletion = true := by
  induction h with
  | file f => rfl
  | season f => rfl
  | addFile f _ ih => exact ih

/-- Below a season whose ratio is told no file offers deletion, below another all do. -/
theorem Shows.allowDeletion_of_mem {n : Int32} {files : List LinkedFile} {row : Row}
    (h : Shows item now (.season n) files row) :
    ∀ leaf ∈ row.guardSeason.children, leaf.allowDeletion = !row.torrent.ratio.isSome := by
  intro leaf hleaf
  unfold guardSeason at hleaf
  split at hleaf
  · rename_i hratio
    obtain ⟨_, -, rfl⟩ := List.mem_map.1 hleaf
    rw [hratio]
    rfl
  · rename_i hratio
    rw [h.children_eq] at hleaf
    obtain ⟨f, -, rfl⟩ := List.mem_map.1 hleaf
    rw [Bool.eq_false_iff.2 hratio]
    rfl

end Row

/-- The files of a season, in order. -/
def Item.seasonFiles (item : Item) (n : Int32) : List LinkedFile :=
  item.linked.files.filter (·.file.season == n)

theorem Item.membersOf_season {item : Item} (hkind : item.linked.title.kind = .series) {n : Int32}
    (hn : 0 < n) : item.membersOf item.linked.files (.season n) = item.seasonFiles n := by
  refine List.filter_congr fun f _ => ?_
  rw [Bool.eq_iff_iff, beq_iff_eq, beq_iff_eq, Item.groupOf_eq_season_iff]
  simp [hkind, hn]

/-- How a season is shown: its files stand below it, and they offer deletion unless they look as if
they came from one torrent. -/
structure Row.ShowsSeason (item : Item) (now : Instant) (n : Int32) (row : Row) : Prop where
  id_eq : row.id = (item.idOf (.season n)).text
  children : List.Forall₂ (Row.ShowsFile item now) (item.seasonFiles n) row.children
  guarded : ∀ leaf ∈ row.children,
    leaf.allowDeletion = false ↔ SeededAlike now (item.seasonFiles n)

namespace Row

variable {item : Item} {now : Instant} {n : Int32} {row : Row}

theorem Shows.showsSeason
    (h : Shows item now (.season n) (item.membersOf item.linked.files (.season n)) row) :
    item.linked.title.kind = .series ∧ 0 < n ∧ ShowsSeason item now n row.guardSeason := by
  obtain ⟨f, hf⟩ := List.exists_mem_of_ne_nil _ h.files_ne_nil
  obtain ⟨hkind, hn, -⟩ := Item.groupOf_eq_season_iff.1 (Item.mem_membersOf.1 hf).2
  have hmembers := Item.membersOf_season hkind hn
  obtain ⟨children, hguard, -⟩ := row.guardSeason_eq
  refine ⟨hkind, hn, ?_, ?_, fun leaf hleaf => ?_⟩
  · rw [hguard]
    exact h.id_eq
  · rw [← hmembers]
    exact h.children_guardSeason
  · rw [h.allowDeletion_of_mem leaf hleaf, Bool.not_eq_false', h.isSome_ratio_iff, hmembers]

/-- A season row offers deletion, guarded or not. -/
theorem Shows.allowDeletion_guardSeason {s : FileSelector} {files : List LinkedFile}
    (h : Shows item now s files row) : row.guardSeason.allowDeletion = true := by
  obtain ⟨children, hguard, -⟩ := row.guardSeason_eq
  rw [hguard]
  exact h.allowDeletion

end Row

/-- Files of one torrent look as if they came from one. -/
theorem seededAlike_of_torrent {now : Instant} {files : List LinkedFile} (hfiles : files ≠ [])
    {t : Torrent} (hratio : t.ratio.isNaN = false) (h : ∀ f ∈ files, f.torrent = some t) :
    SeededAlike now files := by
  obtain ⟨f, rest, rfl⟩ := List.exists_cons_of_ne_nil hfiles
  obtain ⟨hf, hrest⟩ := List.forall_mem_cons.1 h
  refine ⟨f, t, rest, rfl, hf, fun g hg => ⟨t, hrest g hg, ?_, rfl⟩⟩
  rw [Binary64.eqv, hratio]
  simp

/-- In the tree of a title all rows offer deletion, except the files below a season that look as if
they came from one torrent, as they do when they come from one. The files of a series that have a
season are below its row. -/
theorem season_files_guarded (item : Item) (now : Instant) :
    (Row.ofItem item now).allowDeletion = true ∧
    (∀ row ∈ (Row.ofItem item now).children, row.allowDeletion = true ∧
      ((∃ f ∈ item.linked.files, row = Row.ofFile item now f) ∨
        item.linked.title.kind = .series ∧ ∃ n, 0 < n ∧ Row.ShowsSeason item now n row)) ∧
    (item.linked.title.kind = .series → ∀ f ∈ item.linked.files, 0 < f.file.season →
      ∃ row ∈ (Row.ofItem item now).children, Row.ShowsSeason item now f.file.season row) ∧
    ∀ n t, item.seasonFiles n ≠ [] → t.ratio.isNaN = false →
      (∀ f ∈ item.seasonFiles n, f.torrent = some t) → SeededAlike now (item.seasonFiles n) := by
  have harranged : Row.Arranged item now item.linked.files _ := Row.arranged_foldl _
  refine ⟨rfl, fun row hrow => ?_, fun hkind f hf hn => ?_,
    fun n t hfiles hratio h => seededAlike_of_torrent hfiles hratio h⟩
  · rw [Row.children_ofItem] at hrow
    obtain ⟨below, hbelow, rfl⟩ := List.mem_map.1 hrow
    cases harranged.isBelow below hbelow with
    | file f hf =>
      rw [Row.guardSeason_of_children_eq_nil rfl]
      exact ⟨rfl, .inl ⟨f, hf, rfl⟩⟩
    | @season n _ h =>
      obtain ⟨hkind, hn, hshows⟩ := h.showsSeason
      exact ⟨h.allowDeletion_guardSeason, .inr ⟨hkind, n, hn, hshows⟩⟩
  · have hgroup := Item.groupOf_eq_season_iff.2 ⟨hkind, hn, rfl⟩
    obtain ⟨row, hrow, hid⟩ := List.mem_map.1 (harranged.mem_ids f hf _ hgroup)
    have hshows := ((harranged.isBelow row hrow).shows hid).showsSeason
    refine ⟨row.guardSeason, ?_, hshows.2.2⟩
    rw [Row.children_ofItem]
    exact List.mem_map_of_mem hrow

/-! ## A season of one torrent and a season of two -/

namespace Sample

/-- The series whose files all come from one torrent. -/
def packed : Item := rules.item ⟨0, 0⟩ ⟨series.title, series.files.map (⟨·, some torrent⟩)⟩

/-- Two torrents that were added at the same time and gave back as much as each other. -/
def twins : List Torrent :=
  [⟨"qbit", "c", "one.mkv", .ofNat 1, ⟨0, 0⟩, ["tracker.org"], []⟩,
    ⟨"qbit", "d", "two.mkv", .ofNat 1, ⟨0, 0⟩, ["tracker.org"], []⟩]

/-- The sample inventory with the series and the two torrents, after a refresh. -/
def withTwins : Inventory StandInLibrary StandInClient Trackers :=
  let unread : Inventory StandInLibrary StandInClient Trackers :=
    { inventory with media := { backend := [series] }, torrents := { backend := twins } }
  (unread.perform backends ⟨0, 0⟩ .refresh).2

def twinsItem : Item := rules.item ⟨0, 0⟩ ⟨series.title, series.files.map (·.link twins)⟩

end Sample

open Sample in
theorem season_of_one_torrent_guarded :
    ∃ row ∈ (Row.ofItem packed ⟨0, 0⟩).children,
      row.id = "series-5-s-1" ∧ row.children ≠ [] ∧
      ∀ leaf ∈ row.children, leaf.allowDeletion = false := by
  obtain ⟨-, -, hseason, halike⟩ := season_files_guarded packed ⟨0, 0⟩
  obtain ⟨row, hrow, hshows⟩ :=
    hseason rfl ⟨⟨20, 1, "one.mkv", 100⟩, some torrent⟩ List.mem_cons_self (by decide)
  have hone : SeededAlike ⟨0, 0⟩ (packed.seasonFiles 1) :=
    halike 1 torrent (by decide) (by decide) (by decide)
  refine ⟨row, hrow, hshows.id_eq, fun hnil => ?_, fun leaf hleaf => ?_⟩
  · have hchildren := hshows.children
    rw [hnil] at hchildren
    cases hchildren
  · exact (hshows.guarded leaf hleaf).2 hone

open Sample in
/-- Torrents that agree in ratio and age are taken for one, although their keys differ. -/
theorem season_of_two_torrents_guarded :
    (∃ last, Inventory.Run backends withTwins last) ∧ withTwins.items = some [twinsItem] ∧
    twinsItem.linked.title.kind = .series ∧
    (∃ row ∈ (Row.ofItem twinsItem ⟨0, 0⟩).children, row.id = "series-5-s-1" ∧
      row.children.map (·.allowDeletion) = [false, false]) ∧
    ¬∃ key, ∀ f ∈ twinsItem.seasonFiles 1, f.torrent.map (·.key) = some key := by
  refine ⟨⟨_, .request ⟨0, 0⟩ .refresh (.start rfl)⟩, rfl, rfl,
    ⟨_, List.mem_cons_self, rfl, rfl⟩, ?_⟩
  rintro ⟨key, hkey⟩
  have hfirst : some ⟨"qbit", "c"⟩ = some key := hkey _ List.mem_cons_self
  have hsecond : some ⟨"qbit", "d"⟩ = some key :=
    hkey _ (List.mem_cons_of_mem _ List.mem_cons_self)
  exact absurd (hfirst.trans hsecond.symm) (by decide)

end SeedCleanup

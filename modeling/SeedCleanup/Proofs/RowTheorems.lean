import Mathlib.Data.List.Forall2
import Mathlib.Data.List.Induction
import Mathlib.Data.List.Nodup
import SeedCleanup.Inventory.Row
import SeedCleanup.Proofs.ItemTheorems
import SeedCleanup.Proofs.MediaIdTheorems

/-!
# How rows are put together

Files are put below their title one after the other. At any time there is one row for every group of
files that were placed so far (`Placed`), and it shows the files of the group in order (`Shows`).
-/

namespace SeedCleanup

/-! ## Groups of files -/

namespace Item

/-- What the row below a title addresses in which a file is shown: its season, or the file. -/
def groupOf (item : Item) (f : LinkedFile) : FileSelector :=
  if item.linked.title.kind = .series ∧ f.file.hasSeason then .season f.file.season
  else .file f.file.id

/-- The files of a group. -/
def membersOf (item : Item) (files : List LinkedFile) (s : FileSelector) : List LinkedFile :=
  files.filter (item.groupOf · == s)

/-- The id of files of an item. -/
def idOf (item : Item) (s : FileSelector) : MediaId :=
  ⟨item.linked.title.kind, item.linked.title.id, s⟩

variable {item : Item} {files : List LinkedFile} {s : FileSelector} {f : LinkedFile}

/-- Seasons are shown for files of a series that have one. -/
theorem groupOf_eq_season_iff {n : Int32} :
    item.groupOf f = .season n ↔ item.linked.title.kind = .series ∧ 0 < n ∧ f.file.season = n := by
  unfold groupOf
  split
  · rename_i h
    obtain ⟨hkind, hseason⟩ := h
    have hpos : 0 < f.file.season := of_decide_eq_true hseason
    rw [FileSelector.season.injEq]
    constructor
    · rintro rfl
      exact ⟨hkind, hpos, rfl⟩
    · rintro ⟨-, -, heq⟩
      exact heq
  · rename_i h
    constructor
    · intro heq
      cases heq
    · rintro ⟨hkind, hpos, rfl⟩
      exact absurd ⟨hkind, decide_eq_true hpos⟩ h

theorem groupOf_ne_all : item.groupOf f ≠ .all := by
  unfold groupOf
  split <;> simp

/-- A file that no season is shown for has a row of its own. -/
theorem groupOf_eq_file_of {id : Int64} (h : item.groupOf f = .file id) : f.file.id = id := by
  unfold groupOf at h
  split at h
  · cases h
  · exact FileSelector.file.inj h

theorem unsigned_groupOf (h : 0 ≤ f.file.id) : (item.groupOf f).Unsigned := by
  cases hgroup : item.groupOf f with
  | all => trivial
  | file id => exact groupOf_eq_file_of hgroup ▸ h
  | season n => exact Int32.le_of_lt (groupOf_eq_season_iff.1 hgroup).2.1

theorem exists_groupOf_append :
    (∃ g ∈ files ++ [f], item.groupOf g = s)
      ↔ (∃ g ∈ files, item.groupOf g = s) ∨ item.groupOf f = s := by
  simp only [List.mem_append, List.mem_singleton, or_and_right, exists_or, exists_eq_left]

theorem text_idOf_inj (htitle : 0 ≤ item.linked.title.id) {s' : FileSelector} (hs : s.Unsigned)
    (hs' : s'.Unsigned) : (item.idOf s).text = (item.idOf s').text ↔ s = s' := by
  have hid : (item.idOf s).Unsigned := ⟨htitle, hs⟩
  have hid' : (item.idOf s').Unsigned := ⟨htitle, hs'⟩
  rw [MediaId.text_inj hid hid', idOf, idOf, MediaId.mk.injEq]
  simp

theorem mem_membersOf : f ∈ item.membersOf files s ↔ f ∈ files ∧ item.groupOf f = s := by
  rw [membersOf, List.mem_filter, beq_iff_eq]

theorem membersOf_append_of_eq (h : item.groupOf f = s) :
    item.membersOf (files ++ [f]) s = item.membersOf files s ++ [f] := by
  have hf : (item.groupOf f == s) = true := beq_iff_eq.2 h
  simp only [membersOf, List.filter_append, List.filter_cons, List.filter_nil, hf, if_true]

theorem membersOf_append_of_ne (h : item.groupOf f ≠ s) :
    item.membersOf (files ++ [f]) s = item.membersOf files s := by
  have hf : (item.groupOf f == s) = false := beq_false_of_ne h
  simp only [membersOf, List.filter_append, List.filter_cons, List.filter_nil, hf,
    Bool.false_eq_true, if_false, List.append_nil]

theorem membersOf_eq_nil (h : ∀ f ∈ files, item.groupOf f ≠ s) : item.membersOf files s = [] := by
  rw [membersOf, List.filter_eq_nil_iff]
  intro f hf
  simpa using h f hf

/-- The groups of files make up the files. -/
theorem perm_flatMap_membersOf {keys : List FileSelector} (hkeys : keys.Nodup)
    (hcovered : ∀ f ∈ files, item.groupOf f ∈ keys) :
    (keys.flatMap (item.membersOf files)).Perm files := by
  induction keys generalizing files with
  | nil =>
    have hnil : files = [] := List.eq_nil_iff_forall_not_mem.2 fun f hf => by
      cases hcovered f hf
    rw [hnil, List.flatMap_nil]
  | cons s rest ih =>
    obtain ⟨hs, hrest⟩ := List.nodup_cons.1 hkeys
    let others := files.filter fun f => !(item.groupOf f == s)
    have hothers : ∀ f ∈ others, item.groupOf f ∈ rest := by
      intro f hf
      obtain ⟨hmem, hne⟩ := List.mem_filter.1 hf
      rcases List.mem_cons.1 (hcovered f hmem) with heq | hin
      · simp [heq] at hne
      · exact hin
    have hsame : rest.flatMap (item.membersOf files) = rest.flatMap (item.membersOf others) := by
      refine List.flatMap_congr fun s' hs' => ?_
      have hne : s' ≠ s := fun heq => hs (heq ▸ hs')
      rw [membersOf, membersOf, List.filter_filter]
      refine List.filter_congr fun f _ => ?_
      by_cases hf : item.groupOf f = s'
      · simp [hf, hne]
      · simp [hf]
    rw [List.flatMap_cons, hsame]
    have hperm : (rest.flatMap (item.membersOf others)).Perm others := ih hrest hothers
    exact (hperm.append_left _).trans (List.filter_append_perm _ _)

end Item

/-! ## Links of many files -/

namespace LinkStatus

/-- The status of files together: whether all of them, none or only some have a torrent. -/
def ofFiles (files : List LinkedFile) : LinkStatus :=
  if files.all (·.torrent.isSome) then present
  else if files.all (·.torrent.isNone) then missing
  else incomplete

theorem combine_ofFiles {files : List LinkedFile} (hfiles : files ≠ []) (f : LinkedFile) :
    (ofFiles files).combine (ofFiles [f]) = ofFiles (files ++ [f]) := by
  obtain ⟨⟨g, linked⟩, rest, rfl⟩ := List.exists_cons_of_ne_nil hfiles
  obtain ⟨f, linked'⟩ := f
  -- the rest matters only if it is linked throughout or not at all
  by_cases hsome : rest.all (·.torrent.isSome) = true <;>
    by_cases hnone : rest.all (·.torrent.isNone) = true <;>
    cases linked <;> cases linked' <;> simp [ofFiles, combine, hsome, hnone]

end LinkStatus

namespace TorrentInfo

theorem status_combine (a b : TorrentInfo) : (a.combine b).status = a.status.combine b.status := by
  unfold combine
  split
  · rename_i h
    have hstatus : a.status = b.status := by
      simp only [agrees, Bool.and_eq_true, beq_iff_eq] at h
      exact h.1.1
    rw [LinkStatus.combine, if_pos hstatus]
  · rfl

end TorrentInfo

/-! ## The rows of groups -/

namespace Row

variable (item : Item) (now : Instant)

/-- How a row comes to show the files of a group: a file has a row of its own, and a season gets one
with its first file, to which the other files are added in order. -/
inductive Shows : FileSelector → List LinkedFile → Row → Prop
  | file (f : LinkedFile) : Shows (.file f.file.id) [f] (ofFile item now f)
  | season (f : LinkedFile) : Shows (.season f.file.season) [f]
      (ofSeason item f.file.season (item.idOf (.season f.file.season)).text (ofFile item now f))
  | addFile {n : Int32} {files : List LinkedFile} {row : Row} (f : LinkedFile)
      (h : Shows (.season n) files row) :
      Shows (.season n) (files ++ [f]) (row.addFile (ofFile item now f))

/-- What stands below a title after some files were placed: one row for each of their groups. -/
structure Placed (keys : List FileSelector) (files : List LinkedFile) (rows : List Row) : Prop where
  nodup : keys.Nodup
  mem_keys_iff : ∀ s, s ∈ keys ↔ ∃ f ∈ files, item.groupOf f = s
  rows : List.Forall₂ (fun s row => Shows item now s (item.membersOf files s) row) keys rows

variable {item now}

theorem status_torrent_ofFile (f : LinkedFile) :
    (ofFile item now f).torrent.status = LinkStatus.ofFiles [f] := by
  show (torrentOfFile _ f now).status = _
  unfold torrentOfFile
  cases h : f.torrent <;> simp [LinkStatus.ofFiles, TorrentInfo.unlinked, h]

namespace Shows

variable {s : FileSelector} {files : List LinkedFile} {row : Row}

theorem id_eq (h : Shows item now s files row) : row.id = (item.idOf s).text := by
  induction h with
  | file f => rfl
  | season f => rfl
  | addFile f _ ih => exact ih

theorem files_ne_nil (h : Shows item now s files row) : files ≠ [] := by
  cases h <;> simp

theorem toNat_size (h : Shows item now s files row) :
    row.size.toNat = bytesOf files % UInt64.size := by
  have hone (f : LinkedFile) : f.file.size.toNat = bytesOf [f] % UInt64.size :=
    (Nat.mod_eq_of_lt f.file.size.toNat_lt).symm
  induction h with
  | file f => exact hone f
  | season f => exact hone f
  | @addFile n files row f _ ih =>
    have hadd : (row.addFile (ofFile item now f)).size.toNat
        = (row.size.toNat + f.file.size.toNat) % UInt64.size := UInt64.toNat_add _ _
    rw [hadd, ih, Nat.mod_add_mod, bytesOf_append_singleton]

theorem status_eq (h : Shows item now s files row) :
    row.torrent.status = LinkStatus.ofFiles files := by
  induction h with
  | file f => exact status_torrent_ofFile f
  | season f => exact status_torrent_ofFile f
  | @addFile n files row f h ih =>
    show (row.torrent.combine (ofFile item now f).torrent).status = _
    rw [TorrentInfo.status_combine, ih, status_torrent_ofFile, LinkStatus.combine_ofFiles]
    exact h.files_ne_nil

theorem children_eq (h : Shows item now s files row) :
    row.children = match s with
      | .season _ => files.map (ofFile item now)
      | _ => [] := by
  induction h with
  | file f => rfl
  | season f => rfl
  | @addFile n files row f h ih =>
    show row.children ++ [ofFile item now f] = _
    rw [ih, List.map_append]
    rfl

/-- A season has the decision of its verdict, if the report has one. -/
theorem decision_season {n : Int32} (h : Shows item now (.season n) files row) {v : Verdict}
    (hv : item.report.seasons.get? n = some v) : row.decision = v.decision := by
  generalize hs : FileSelector.season n = s at h
  induction h with
  | file f => cases hs
  | season f =>
    cases hs
    show ((item.report.seasons.get? f.file.season).map (·.decision)).getD _ = _
    rw [hv]
    rfl
  | addFile f _ ih => exact ih hs

/-- A row that shows a file is its row. -/
theorem eq_ofFile {id : Int64} (h : Shows item now (.file id) files row) :
    ∃ f, files = [f] ∧ f.file.id = id ∧ row = ofFile item now f := by
  cases h with
  | file f => exact ⟨f, rfl, rfl, rfl⟩

end Shows

/-! ## Placing one file after the other -/

section

variable {P : FileSelector → Row → Prop} {s₀ : FileSelector} {id : String} {f : Row → Row}
  {keys : List FileSelector} {rows : List Row}

/-- In a list of rows with keys, there is nothing to change when no key has the id. -/
theorem updateFirst?_eq_none (h : List.Forall₂ P keys rows) (hmem : s₀ ∉ keys)
    (hid : ∀ s ∈ keys, ∀ row, P s row → (row.id = id ↔ s = s₀)) :
    updateFirst? id f rows = none := by
  induction h with
  | nil => rfl
  | @cons s row keys rows hrow hrows ih =>
    obtain ⟨hne, hnot⟩ := not_or.1 (mt List.mem_cons.2 hmem)
    obtain ⟨hids, hidrest⟩ := List.forall_mem_cons.1 hid
    rw [updateFirst?, if_neg (mt (hids row hrow).1 (Ne.symm hne)), ih hnot hidrest,
      Option.map_none]

/-- In a list of rows with keys, changing the row that has an id changes that of one key. -/
theorem exists_updateFirst? {Q : FileSelector → Row → Prop} (h : List.Forall₂ P keys rows)
    (hnodup : keys.Nodup) (hmem : s₀ ∈ keys)
    (hid : ∀ s ∈ keys, ∀ row, P s row → (row.id = id ↔ s = s₀))
    (hchange : ∀ row, P s₀ row → Q s₀ (f row))
    (hkeep : ∀ s row, s ≠ s₀ → P s row → Q s row) :
    ∃ rows', updateFirst? id f rows = some rows' ∧ List.Forall₂ Q keys rows' := by
  induction h with
  | nil => cases hmem
  | @cons s row keys rows hrow hrows ih =>
    obtain ⟨hs, hnodup⟩ := List.nodup_cons.1 hnodup
    obtain ⟨hids, hidrest⟩ := List.forall_mem_cons.1 hid
    by_cases heq : s = s₀
    · subst heq
      refine ⟨f row :: rows, ?_, .cons (hchange row hrow) ?_⟩
      · rw [updateFirst?, if_pos ((hids row hrow).2 rfl)]
      · have hne : ∀ s' ∈ keys, s' ≠ s := fun s' hs' heq => hs (heq ▸ hs')
        exact ((List.forall₂_and_left _ _).2 ⟨hne, hrows⟩).imp
          fun s' row' h => hkeep s' row' h.1 h.2
    · rcases List.mem_cons.1 hmem with heq' | hin
      · exact absurd heq'.symm heq
      · obtain ⟨rows', hupdate, hrest⟩ := ih hnodup hin hidrest
        refine ⟨row :: rows', ?_, .cons (hkeep s row heq hrow) hrest⟩
        rw [updateFirst?, if_neg (mt (hids row hrow).1 heq), hupdate, Option.map_some]

end

namespace Placed

variable {keys : List FileSelector} {files : List LinkedFile} {rows : List Row} {f : LinkedFile}

/-- Below a title the rows are told apart by their ids. -/
theorem id_eq_text_iff (h : Placed item now keys files rows) (htitle : 0 ≤ item.linked.title.id)
    (hids : ∀ g ∈ files, 0 ≤ g.file.id) {n : Int32} (hn : 0 ≤ n) :
    ∀ s ∈ keys, ∀ row, Shows item now s (item.membersOf files s) row →
      (row.id = (item.idOf (.season n)).text ↔ s = .season n) := by
  intro s hs row hrow
  obtain ⟨g, hg, rfl⟩ := (h.mem_keys_iff s).1 hs
  have hunsigned : (FileSelector.season n).Unsigned := hn
  rw [hrow.id_eq, Item.text_idOf_inj htitle (Item.unsigned_groupOf (hids g hg)) hunsigned]

/-- A group that is met for the first time gets a row. -/
theorem addRow (h : Placed item now keys files rows)
    (hnew : ∀ g ∈ files, item.groupOf g ≠ item.groupOf f) {row : Row}
    (hrow : Shows item now (item.groupOf f) [f] row) :
    Placed item now (keys ++ [item.groupOf f]) (files ++ [f]) (rows ++ [row]) := by
  have hnot : ∀ s ∈ keys, item.groupOf f ≠ s := by
    rintro s hs rfl
    obtain ⟨g, hg, heq⟩ := (h.mem_keys_iff _).1 hs
    exact hnew g hg heq
  refine ⟨?_, fun s => ?_, List.rel_append ?_ (.cons ?_ .nil)⟩
  · rw [List.nodup_append]
    refine ⟨h.nodup, List.nodup_singleton _, fun s hs s' hs' heq => hnot s hs ?_⟩
    rw [← List.mem_singleton.1 hs', heq]
  · rw [List.mem_append, List.mem_singleton, h.mem_keys_iff, Item.exists_groupOf_append,
      eq_comm (a := s)]
  · refine ((List.forall₂_and_left _ _).2 ⟨hnot, h.rows⟩).imp fun s row hs => ?_
    rw [Item.membersOf_append_of_ne hs.1]
    exact hs.2
  · rwa [Item.membersOf_append_of_eq rfl, Item.membersOf_eq_nil hnew]

/-- A file of a season that was met before is added to the row of the season. -/
theorem addToRow (h : Placed item now keys files rows) (htitle : 0 ≤ item.linked.title.id)
    (hids : ∀ g ∈ files, 0 ≤ g.file.id) {n : Int32} (hn : 0 ≤ n) (hold : .season n ∈ keys)
    (hf : item.groupOf f = .season n) :
    ∃ rows', updateFirst? (item.idOf (.season n)).text (·.addFile (ofFile item now f)) rows
        = some rows' ∧ Placed item now keys (files ++ [f]) rows' := by
  obtain ⟨rows', hupdate, hrows'⟩ := exists_updateFirst?
    (Q := fun s row => Shows item now s (item.membersOf (files ++ [f]) s) row) h.rows h.nodup hold
    (h.id_eq_text_iff htitle hids hn)
    (fun row hrow => by
      rw [Item.membersOf_append_of_eq hf]
      exact hrow.addFile f)
    (fun s row hne hrow => by
      rwa [Item.membersOf_append_of_ne (hf ▸ hne.symm)])
  refine ⟨rows', hupdate, h.nodup, fun s => ?_, hrows'⟩
  rw [Item.exists_groupOf_append, ← h.mem_keys_iff, hf]
  constructor
  · exact .inl
  · rintro (hs | rfl)
    · exact hs
    · exact hold

/-- Placing another file adds it to the row of its group, or adds a row for its group. -/
theorem place (h : Placed item now keys files rows) (htitle : 0 ≤ item.linked.title.id)
    (hids : ∀ g ∈ files, 0 ≤ g.file.id) (hnew : ∀ g ∈ files, g.file.id ≠ f.file.id) :
    ∃ keys', Placed item now keys' (files ++ [f]) (Row.place item now rows f) := by
  unfold Row.place
  simp only
  split
  · rename_i hseason
    have hgroup : item.groupOf f = .season f.file.season := if_pos hseason
    have hn : 0 ≤ f.file.season := Int32.le_of_lt (Item.groupOf_eq_season_iff.1 hgroup).2.1
    by_cases hold : .season f.file.season ∈ keys
    · -- the season has a row, which `updateFirst?` finds by its id
      obtain ⟨rows', hupdate, hplaced⟩ := h.addToRow htitle hids hn hold hgroup
      split
      · rename_i hsome
        rw [Option.some.inj (hsome.symm.trans hupdate)]
        exact ⟨keys, hplaced⟩
      · rename_i hnone
        cases hnone.symm.trans hupdate
    · -- no row has the id of the season
      split
      · rename_i hsome
        cases hsome.symm.trans
          (updateFirst?_eq_none h.rows hold (h.id_eq_text_iff htitle hids hn))
      · refine ⟨_, h.addRow ?_ ?_⟩
        · rw [hgroup]
          exact fun g hg heq => hold ((h.mem_keys_iff _).2 ⟨g, hg, heq⟩)
        · rw [hgroup]
          exact .season f
  · rename_i hseason
    have hgroup : item.groupOf f = .file f.file.id := if_neg hseason
    refine ⟨_, h.addRow (fun g hg heq => ?_) ?_⟩
    · exact hnew g hg (Item.groupOf_eq_file_of (heq.trans hgroup))
    · rw [hgroup]
      exact .file f

end Placed

/-- After all files of a title were placed there is one row for each group of its files. -/
theorem exists_placed {files : List LinkedFile} (htitle : 0 ≤ item.linked.title.id)
    (hids : ∀ f ∈ files, 0 ≤ f.file.id) (hnodup : (files.map (·.file.id)).Nodup) :
    ∃ keys, Placed item now keys files (files.foldl (place item now) []) := by
  induction files using List.reverseRecOn with
  | nil => exact ⟨[], List.nodup_nil, by simp, .nil⟩
  | append_singleton files f ih =>
    rw [List.map_append, List.nodup_append] at hnodup
    obtain ⟨hfiles, -, hnew⟩ := hnodup
    have hold : ∀ g ∈ files, 0 ≤ g.file.id := fun g hg => hids g (List.mem_append_left _ hg)
    obtain ⟨keys, hplaced⟩ := ih hold hfiles
    rw [List.foldl_append]
    refine hplaced.place htitle hold fun g hg => ?_
    exact hnew _ (List.mem_map_of_mem hg) _ List.mem_cons_self

end Row

end SeedCleanup

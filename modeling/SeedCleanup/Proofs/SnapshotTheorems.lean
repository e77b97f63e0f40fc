import SeedCleanup.Proofs.CodecTheorems
import SeedCleanup.Proofs.FleetTheorems

/-!
# What snapshots hold

After a renewal that persists, the file of a fleet holds what the fleet lists
(`Fleet.savedIn_of_renew`), and a fleet that is restored from this file lists the same
(`Fleet.SavedIn.exists_renew`). The files of other managers stay as they are
(`Manager.read_of_renew`), so both sides of an inventory are saved when the second has been renewed.
-/

namespace SeedCleanup

/-! ## Files in a folder -/

namespace SnapshotFolder

variable {files files' : SortedTable String SnapshotFile} {name data : String}

theorem eq_of_write (h : write files name data = .ok files') :
    files' = files.insert name (.text data) := by
  unfold write at h
  split at h
  · cases h
  · exact (Except.ok.inj h).symm

theorem read_of_write (h : write files name data = .ok files') :
    read (.present files') name = .ok data := by
  rw [eq_of_write h, read, SortedTable.get?_insert, if_pos (beq_self_eq_true name)]

/-- Writing a file leaves the others alone. -/
theorem read_of_write_of_ne {folder : SnapshotFolder} {other text : String}
    (hmake : folder.make = .ok files) (hwrite : write files name data = .ok files')
    (hne : other ≠ name) (hread : folder.read other = .ok text) :
    read (.present files') other = .ok text := by
  cases folder with
  | missing => cases hread
  | blocked => cases hread
  | present held =>
    obtain rfl : held = files := Except.ok.inj hmake
    have hother : (held.insert name (.text data)).get? other = held.get? other := by
      rw [SortedTable.get?_insert, if_neg (by rw [beq_false_of_ne hne]; exact Bool.false_ne_true)]
    rw [eq_of_write hwrite, read, hother]
    exact hread

end SnapshotFolder

/-- Renewing the copy of one manager leaves the files of the others alone. -/
theorem Manager.read_of_renew {μ β δ : Type} {m : Manager μ β δ} {h : Habits}
    {folder folder' : SnapshotFolder} {s s' : μ} {other text : String}
    (hrenew : m.renew h folder s = (.ok (), s', folder'))
    (hne : other ≠ snapshotName m.identity) (hread : folder.read other = .ok text) :
    folder'.read other = .ok text := by
  cases Manager.renewed_of_renew hrenew with
  | restored => exact hread
  | refreshed => exact hread
  | persisted hmode hrefresh hmake hsave hwrite =>
    exact SnapshotFolder.read_of_write_of_ne hmake hwrite hne hread

/-! ## Saved fleets -/

namespace Fleet

variable {κ σ β δ : Type} [Ord κ] {rules : FleetRules κ β δ} {source : Source σ β δ}

/-- What the source of a key answers when it is asked. -/
def Reports (source : Source σ β δ) (f : Fleet κ σ β) (key : κ) (l : List β) : Prop :=
  ∃ st, (key, st) ∈ f.sources.entries ∧ (source.fetch.run st).1 = .ok l

/-- The file of a fleet in a folder can be read, and a fleet that reads it lists `l`. -/
def SavedIn (rules : FleetRules κ β δ) (folder : SnapshotFolder) (l : List β) : Prop :=
  ∃ text t, folder.read (snapshotName rules.identity) = .ok text ∧ rules.decode text = some t ∧
    t.values.flatten = l

/-- Lists that are saved are restored as lists that are read in the same order. -/
def Keeps (rules : FleetRules κ β δ) (t : SortedTable κ (List β)) : Prop :=
  ∃ t', rules.decode (rules.encode t) = some t' ∧ t'.values.flatten = t.values.flatten

variable {h : Habits} {f f' : Fleet κ σ β} {folder folder' : SnapshotFolder} {l : List β}

/-- What was saved stays saved while other managers are renewed. -/
theorem SavedIn.of_renew {μ β' δ' : Type} {m : Manager μ β' δ'} {s s' : μ}
    (hsaved : SavedIn rules folder l) (hne : snapshotName rules.identity ≠ snapshotName m.identity)
    (hrenew : m.renew h folder s = (.ok (), s', folder')) : SavedIn rules folder' l := by
  obtain ⟨text, t, hread, hdecode, hlists⟩ := hsaved
  exact ⟨text, t, Manager.read_of_renew hrenew hne hread, hdecode, hlists⟩

/-- A fleet that holds something is never waited for. -/
theorem contents_within_of_entries {t : SortedTable κ (List β)} (hentries : f.entries = some t)
    (limit : Option Nat) (stage : String) :
    (contents rules source).within limit stage f = (.ok t.values.flatten, f) := by
  have hnow : (contents rules source).millis f = 0 := by
    simp only [contents, hentries, Option.isNone_some, Bool.false_eq_true, if_false]
  rw [Call.within_of_millis_eq_zero hnow, contents_run_of_entries hentries]
  rfl

variable [BEq κ]

/-- A fleet that was restored, or persisted after a refresh, holds what its file holds. -/
theorem savedIn_of_renew
    (hkeeps : ∀ t, (∀ key l, (key, l) ∈ t.entries → f.Reports source key l) → Keeps rules t)
    (hmode : h.mode ≠ .live false)
    (hrenew : (manager rules source).renew h folder f = (.ok (), f', folder')) :
    ∃ t, f'.entries = some t ∧ SavedIn rules folder' t.values.flatten := by
  cases Manager.renewed_of_renew hrenew with
  | @restored text _ hread hload =>
    obtain ⟨t, hdecode, rfl⟩ := eq_of_load hload
    exact ⟨t, rfl, text, t, hread, hdecode, rfl⟩
  | refreshed hlive => exact absurd hlive hmode
  | @persisted asked files files' text _ hrefresh hmake hsave hwrite =>
    have hasked : f.refreshNow rules source = (.ok (), asked) := hrefresh
    obtain ⟨hanswer, rfl⟩ := Prod.mk.inj hsave
    obtain ⟨hentries, -⟩ := entries_of_refreshNow hasked
    obtain ⟨t', hdecode, hlists⟩ := hkeeps (reports (f.answers source)) fun key l hmem =>
      fetch_of_mem_reports hasked hmem
    have htext : text = rules.encode (reports (f.answers source)) := by
      rw [← Except.ok.inj hanswer, hentries]
      rfl
    refine ⟨_, hentries, text, t', SnapshotFolder.read_of_write hwrite, ?_, hlists⟩
    rw [htext]
    exact hdecode

/-- A fleet that replays its file lists what was saved, whatever it held before. -/
theorem SavedIn.exists_renew (hsaved : SavedIn rules folder l) (hmode : h.mode = .replay)
    (source : Source σ β δ) (f : Fleet κ σ β) :
    ∃ f' t, (manager rules source).renew h folder f = (.ok (), f', folder) ∧
      f'.entries = some t ∧ t.values.flatten = l := by
  obtain ⟨text, t, hread, hdecode, hlists⟩ := hsaved
  have hload : load rules text f = (.ok (), { f with entries := some t }) := by
    rw [load, hdecode]
  have hrestore : (manager rules source).restore h.dir folder f
      = (.ok (), { f with entries := some t }) := by
    have hfile : folder.read (snapshotName (manager rules source).identity) = .ok text := hread
    have hloaded : (manager rules source).load text f = (.ok (), { f with entries := some t }) :=
      hload
    simp only [Manager.restore, hfile, hloaded]
  refine ⟨{ f with entries := some t }, t, ?_, rfl, hlists⟩
  simp only [Manager.renew, hmode, hrestore]

end Fleet

/-! ## Libraries and clients -/

namespace Libraries

theorem getD_get?_byKind (entries : List MediaEntry) (kind : MediaKind) :
    ((byKind entries).get? kind).getD [] = entries.filter fun e => e.title.kind == kind := by
  cases hkind : (byKind entries).get? kind with
  | some l =>
    obtain ⟨e, -, heq⟩ := List.mem_map.1 (SortedTable.mem_of_get?_ofList hkind)
    obtain ⟨rfl, rfl⟩ := Prod.mk.inj heq
    rfl
  | none =>
    refine (List.filter_eq_nil_iff.2 fun e he hown => ?_).symm
    have hsome : ((byKind entries).get? kind).isSome :=
      SortedTable.isSome_get?_ofList.2 ⟨_, List.mem_map.2 ⟨e, he, by rw [eq_of_beq hown]⟩⟩
    rw [hkind] at hsome
    cases hsome

/-- Titles that are sorted by kind again are listed as they were. -/
theorem flatten_byKind {t : SortedTable MediaKind (List MediaEntry)}
    (hown : ∀ kind l, (kind, l) ∈ t.entries → ∀ e ∈ l, e.title.kind = kind) :
    (byKind t.values.flatten).values.flatten = t.values.flatten :=
  SortedTable.flatten_values_eq fun kind => by
    rw [getD_get?_byKind, SortedTable.filter_flatten_values hown]

theorem keeps_of_own {t : SortedTable MediaKind (List MediaEntry)}
    (hown : ∀ kind l, (kind, l) ∈ t.entries → ∀ e ∈ l, e.title.kind = kind)
    (htimes : ∀ kind l, (kind, l) ∈ t.entries → ∀ e ∈ l, e.title.added.ReadsBack) :
    Fleet.Keeps rules t := by
  have hread : MediaEntry.ofSaved? (MediaEntry.saved t.values.flatten) = some t.values.flatten := by
    refine MediaEntry.ofSaved?_saved fun e he => ?_
    obtain ⟨l, hl, he⟩ := List.mem_flatten.1 he
    obtain ⟨⟨kind, l⟩, hmem, rfl⟩ := List.mem_map.1 hl
    exact htimes kind l hmem e he
  exact ⟨byKind t.values.flatten, congrArg (Option.map byKind) hread, flatten_byKind hown⟩

end Libraries

theorem Clients.keeps_of_readsBack {t : SortedTable String (List Torrent)}
    (h : ∀ client l, (client, l) ∈ t.entries → ∀ torrent ∈ l, torrent.ReadsBack) :
    Fleet.Keeps rules t :=
  ⟨t, Torrent.ofSavedByClient?_savedByClient h, rfl⟩

/-- Libraries and clients have files of their own. -/
theorem snapshotName_libraries_ne_clients :
    snapshotName Libraries.rules.identity ≠ snapshotName Clients.rules.identity := by
  decide +kernel

end SeedCleanup

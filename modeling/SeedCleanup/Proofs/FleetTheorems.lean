import SeedCleanup.Proofs.CallTheorems
import SeedCleanup.Proofs.SortedTableTheorems

/-!
# What fleets hold

A fleet whose copy was renewed holds a list for each of its sources, or what was saved
(`Fleet.exists_entries_of_renew`). From then on its contents are what it holds, and only a deletion
that succeeds changes them (`Fleet.entries_of_delete`).
-/

namespace SeedCleanup

theorem SourceError.eq_nil_of_join_eq_ok {errors : List SourceError}
    (h : join errors = .ok ()) : errors = [] := by
  match errors with
  | [] => rfl
  | [_] => exact nomatch h
  | _ :: _ :: _ => exact nomatch h

/-! ## Renewals that succeed -/

/-- What a renewal that succeeded has done, in each mode. -/
inductive Manager.Renewed {μ β δ : Type} (m : Manager μ β δ) (h : Habits)
    (folder : SnapshotFolder) (s s' : μ) : SnapshotFolder → Prop
  | restored {text : String} (hmode : h.mode = .replay)
      (hread : folder.read (snapshotName m.identity) = .ok text)
      (hload : m.load text s = (.ok (), s')) : Renewed m h folder s s' folder
  | refreshed (hmode : h.mode = .live false)
      (hrefresh : m.refresh.run s = (.ok (), s')) : Renewed m h folder s s' folder
  | persisted {s₁ : μ} {files files' : SortedTable String SnapshotFile} {text : String}
      (hmode : h.mode = .live true) (hrefresh : m.refresh.run s = (.ok (), s₁))
      (hmake : folder.make = .ok files) (hsave : m.save s₁ = (.ok text, s'))
      (hwrite : SnapshotFolder.write files (snapshotName m.identity) text = .ok files') :
      Renewed m h folder s s' (.present files')

namespace Manager

variable {μ β δ : Type} {m : Manager μ β δ} {h : Habits} {folder folder' : SnapshotFolder}
  {s s' : μ}

theorem eq_of_restore {dir : String} (hrestore : m.restore dir folder s = (.ok (), s')) :
    ∃ text, folder.read (snapshotName m.identity) = .ok text ∧ m.load text s = (.ok (), s') := by
  unfold restore at hrestore
  split at hrestore
  · exact nomatch (Prod.mk.inj hrestore).1
  · rename_i text hread
    rcases hload : m.load text s with ⟨e | ⟨⟩, s₁⟩
    · rw [hload] at hrestore
      exact nomatch (Prod.mk.inj hrestore).1
    · rw [hload] at hrestore
      obtain ⟨-, rfl⟩ := Prod.mk.inj hrestore
      exact ⟨text, hread, hload⟩

theorem eq_of_persist {dir : String} (hpersist : m.persist dir folder s = (.ok (), s', folder')) :
    ∃ files text files', folder.make = .ok files ∧ m.save s = (.ok text, s') ∧
      SnapshotFolder.write files (snapshotName m.identity) text = .ok files' ∧
        folder' = .present files' := by
  unfold persist at hpersist
  split at hpersist
  · exact nomatch (Prod.mk.inj hpersist).1
  · rename_i files hmake
    rcases hsave : m.save s with ⟨e | text, s₁⟩
    · rw [hsave] at hpersist
      exact nomatch (Prod.mk.inj hpersist).1
    · rw [hsave] at hpersist
      dsimp only at hpersist
      split at hpersist
      · exact nomatch (Prod.mk.inj hpersist).1
      · rename_i files' hwrite
        obtain ⟨-, heq⟩ := Prod.mk.inj hpersist
        obtain ⟨rfl, rfl⟩ := Prod.mk.inj heq
        exact ⟨files, text, files', hmake, rfl, hwrite, rfl⟩

theorem renewed_of_renew (hrenew : m.renew h folder s = (.ok (), s', folder')) :
    m.Renewed h folder s s' folder' := by
  unfold renew at hrenew
  split at hrenew
  · rename_i hmode
    rcases hrestore : m.restore h.dir folder s with ⟨result, s₁⟩
    rw [hrestore] at hrenew
    obtain ⟨rfl, heq⟩ := Prod.mk.inj hrenew
    obtain ⟨rfl, rfl⟩ := Prod.mk.inj heq
    obtain ⟨text, hread, hload⟩ := eq_of_restore hrestore
    exact .restored hmode hread hload
  · rename_i persist hmode
    rcases hask : m.refresh.within h.limit ("refresh " ++ m.identity) s with ⟨e | ⟨⟩, s₁⟩
    · rw [hask] at hrenew
      exact nomatch (Prod.mk.inj hrenew).1
    · rw [hask] at hrenew
      have hrefresh := Call.run_of_within_eq_ok hask
      cases persist with
      | false =>
        obtain ⟨-, heq⟩ := Prod.mk.inj hrenew
        obtain ⟨rfl, rfl⟩ := Prod.mk.inj heq
        exact .refreshed hmode hrefresh
      | true =>
        obtain ⟨files, text, files', hmake, hsave, hwrite, rfl⟩ := eq_of_persist hrenew
        exact .persisted hmode hrefresh hmake hsave hwrite

/-- A renewal from disk leaves the folder as it is. -/
theorem Renewed.folder_eq (hrenewed : m.Renewed h folder s s' folder')
    (hmode : h.mode = .replay) : folder' = folder := by
  cases hrenewed with
  | restored => rfl
  | refreshed => rfl
  | persisted hlive =>
    rw [hmode] at hlive
    exact nomatch hlive

end Manager

namespace Fleet

variable {κ σ β δ : Type} [Ord κ] {rules : FleetRules κ β δ} {source : Source σ β δ}
  {f f' : Fleet κ σ β} {t : SortedTable κ (List β)}

theorem listed_of_entries (h : f.entries = some t) : f.listed = t.values.flatten := by
  rw [listed, h]

/-- A fleet that holds something answers what it holds. -/
theorem contents_run_of_entries (h : f.entries = some t) :
    (contents rules source).run f = (.ok t.values.flatten, f) := by
  simp only [contents, h, listed_of_entries h]

theorem eq_of_contents_within (h : f.entries = some t) {limit : Option Nat} {stage : String}
    {l : List β} (hcontents : (contents rules source).within limit stage f = (.ok l, f')) :
    l = t.values.flatten ∧ f' = f := by
  have hrun := Call.run_of_within_eq_ok hcontents
  rw [contents_run_of_entries h] at hrun
  obtain ⟨hl, rfl⟩ := Prod.mk.inj hrun
  exact ⟨(Except.ok.inj hl).symm, rfl⟩

/-! ## Renewals -/

/-- What a renewal can take for the list of a key: what the source answers, or what was saved. -/
inductive Offers (rules : FleetRules κ β δ) (source : Source σ β δ) (h : Habits)
    (folder : SnapshotFolder) (f : Fleet κ σ β) (key : κ) (l : List β) : Prop
  | fetched {persist : Bool} {st : σ} (hmode : h.mode = .live persist)
      (hmem : (key, st) ∈ f.sources.entries) (hfetch : (source.fetch.run st).1 = .ok l)
  | saved {text : String} {t : SortedTable κ (List β)} (hmode : h.mode = .replay)
      (hread : folder.read (snapshotName rules.identity) = .ok text)
      (hdecode : rules.decode text = some t) (hmem : (key, l) ∈ t.entries)

/-- What a renewal is offered depends on the folder only if it is read. -/
theorem Offers.of_folder_eq {h : Habits} {folder folder' : SnapshotFolder} {key : κ} {l : List β}
    (hoffers : Offers rules source h folder f key l)
    (hfolder : h.mode = .replay → folder = folder') :
    Offers rules source h folder' f key l := by
  cases hoffers with
  | fetched hmode hmem hfetch => exact .fetched hmode hmem hfetch
  | saved hmode hread hdecode hmem =>
    rw [hfolder hmode] at hread
    exact .saved hmode hread hdecode hmem

/-- A refresh that succeeds takes over the answers of all sources, none of which failed. -/
theorem entries_of_refreshNow (h : f.refreshNow rules source = (.ok (), f')) :
    f'.entries = some (reports (f.answers source)) ∧
      ∀ a ∈ (f.answers source).entries, ∃ l, a.2.1 = .ok l := by
  unfold refreshNow at h
  split at h
  · exact nomatch (Prod.mk.inj h).1
  · rename_i hjoin
    obtain ⟨-, rfl⟩ := Prod.mk.inj h
    refine ⟨rfl, fun a ha => ?_⟩
    have hnil : failures rules (f.answers source) = [] := SourceError.eq_nil_of_join_eq_ok hjoin
    have hnone := List.filterMap_eq_nil_iff.1 hnil a ha
    cases hanswer : a.2.1 with
    | ok l => exact ⟨l, rfl⟩
    | error e =>
      rw [hanswer] at hnone
      exact nomatch hnone

theorem fetch_of_mem_reports (h : f.refreshNow rules source = (.ok (), f')) {key : κ} {l : List β}
    (hmem : (key, l) ∈ (reports (f.answers source)).entries) :
    ∃ st, (key, st) ∈ f.sources.entries ∧ (source.fetch.run st).1 = .ok l := by
  obtain ⟨a, ha, heq⟩ := List.mem_map.1 hmem
  obtain ⟨l', hl'⟩ := (entries_of_refreshNow h).2 a ha
  obtain ⟨⟨key', st⟩, hst, rfl⟩ := List.mem_map.1 ha
  obtain ⟨rfl, hl⟩ := Prod.mk.inj heq
  have hanswer : (source.fetch.run st).1 = .ok l' := hl'
  dsimp only at hl
  rw [hanswer] at hl
  exact ⟨st, hst, hl ▸ hanswer⟩

/-- A fleet that was restored holds the lists of the text that it read. -/
theorem eq_of_load {text : String} (h : load rules text f = (.ok (), f')) :
    ∃ t, rules.decode text = some t ∧ f' = { f with entries := some t } := by
  unfold load at h
  split at h
  · exact nomatch (Prod.mk.inj h).1
  · rename_i t hdecode
    exact ⟨t, hdecode, (Prod.mk.inj h).2.symm⟩

theorem offers_of_refreshNow {h : Habits} {persist : Bool} {folder : SnapshotFolder}
    (hmode : h.mode = .live persist) (hrefresh : f.refreshNow rules source = (.ok (), f')) :
    ∃ t, f'.entries = some t ∧
      ∀ key l, (key, l) ∈ t.entries → Offers rules source h folder f key l := by
  refine ⟨_, (entries_of_refreshNow hrefresh).1, fun key l hmem => ?_⟩
  obtain ⟨st, hst, hfetch⟩ := fetch_of_mem_reports hrefresh hmem
  exact .fetched hmode hst hfetch

variable [BEq κ]

/-- A fleet whose copy was renewed holds lists that were offered to it. -/
theorem exists_entries_of_renew {h : Habits} {folder folder' : SnapshotFolder}
    (hrenew : (manager rules source).renew h folder f = (.ok (), f', folder')) :
    ∃ t, f'.entries = some t ∧
      ∀ key l, (key, l) ∈ t.entries → Offers rules source h folder f key l := by
  cases Manager.renewed_of_renew hrenew with
  | restored hmode hread hload =>
    obtain ⟨t, hdecode, rfl⟩ := eq_of_load hload
    exact ⟨t, rfl, fun key l hmem => .saved hmode hread hdecode hmem⟩
  | refreshed hmode hrefresh => exact offers_of_refreshNow hmode hrefresh
  | persisted hmode hrefresh hmake hsave hwrite =>
    obtain ⟨-, rfl⟩ := Prod.mk.inj hsave
    exact offers_of_refreshNow hmode hrefresh

/-! ## Deletions -/

variable {request : δ}

theorem entries_abandon_delete :
    ((delete rules source request).abandon f).entries = f.entries := by
  simp only [delete]
  split <;> rfl

theorem entries_run_delete {answer : Except SourceError Unit}
    (h : (delete rules source request).run f = (answer, f')) :
    (answer = .ok () ∧
      f'.entries = (f.setEntries (rules.keyOf request) (rules.without request)).entries) ∨
    (∃ e, answer = .error e) ∧ f'.entries = f.entries := by
  simp only [delete] at h
  split at h
  · obtain ⟨rfl, rfl⟩ := Prod.mk.inj h
    exact .inr ⟨⟨_, rfl⟩, rfl⟩
  · split at h
    · obtain ⟨rfl, rfl⟩ := Prod.mk.inj h
      exact .inr ⟨⟨_, rfl⟩, rfl⟩
    · obtain ⟨rfl, rfl⟩ := Prod.mk.inj h
      exact .inl ⟨rfl, rfl⟩

/-- A deletion that succeeds takes out what it deletes, and any other one changes nothing that the
fleet holds. -/
theorem entries_of_delete {limit : Option Nat} {stage : String}
    {answer : Except InventoryError Unit}
    (h : (delete rules source request).within limit stage f = (answer, f')) :
    (answer = .ok () ∧
      f'.entries = (f.setEntries (rules.keyOf request) (rules.without request)).entries) ∨
    (∃ e, answer = .error e) ∧ f'.entries = f.entries := by
  cases answer with
  | ok =>
    obtain hok | ⟨⟨e, he⟩, -⟩ := entries_run_delete (Call.run_of_within_eq_ok h)
    · exact .inl ⟨rfl, hok.2⟩
    · exact nomatch he
  | error e =>
    refine .inr ⟨⟨e, rfl⟩, ?_⟩
    obtain rfl | ⟨e', hrun⟩ := Call.cases_of_within_eq_error h
    · exact entries_abandon_delete
    · obtain ⟨hok, -⟩ | ⟨-, hentries⟩ := entries_run_delete hrun
      · exact nomatch hok
      · exact hentries

end Fleet

end SeedCleanup

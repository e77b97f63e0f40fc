import SeedCleanup.Proofs.Replay
import SeedCleanup.Proofs.Turns

/-!
# How often sources are asked

A fleet asks each of its sources once for a refresh (`Fleet.fetches_refreshNow`), and never when its
copy is restored, listed or deleted from. It would also ask them when it is listed without a copy,
but an inventory lists its managers only after both copies were renewed. So what was asked of the
sources can be read off the refreshes that were started (`Inventory.fetches_of_refreshes`).
-/

namespace SeedCleanup

/-! ## Tables of numbers -/

namespace SortedTable

variable {κ α β γ : Type} [Ord κ]

theorem mapValues_mapValues (t : SortedTable κ α) (f : κ → α → β) (g : κ → β → γ) :
    (t.mapValues f).mapValues g = t.mapValues fun k v => g k (f k v) :=
  SortedTable.ext (by simp [mapValues])

theorem mapValues_congr {t : SortedTable κ α} {f g : κ → α → β}
    (h : ∀ k v, (k, v) ∈ t.entries → f k v = g k v) : t.mapValues f = t.mapValues g :=
  SortedTable.ext (List.map_congr_left fun e he => congrArg (e.1, ·) (h e.1 e.2 he))

/-- All numbers of a table, each larger by the same amount. -/
def raised (n : Nat) (t : SortedTable κ Nat) : SortedTable κ Nat := t.mapValues fun _ k => k + n

theorem raised_zero (t : SortedTable κ Nat) : t.raised 0 = t :=
  SortedTable.ext (List.map_id' t.entries)

theorem raised_raised (m n : Nat) (t : SortedTable κ Nat) :
    (t.raised m).raised n = t.raised (m + n) := by
  rw [raised, raised, mapValues_mapValues]
  simp only [raised, Nat.add_assoc]

end SortedTable

/-! ## Sources that count -/

/-- The state of a source, with the number of times that it was asked what it holds. -/
structure Counted (σ : Type) where
  state : σ
  fetches : Nat := 0

section

variable {σ α β δ : Type}

/-- A call that adds to the number of fetches, whether it is answered or abandoned. -/
def Call.counted (n : Nat) (c : Call σ α) : Call (Counted σ) α where
  millis s := c.millis s.state
  run s :=
    let (answer, state) := c.run s.state
    (answer, ⟨state, s.fetches + n⟩)
  abandon s := ⟨c.abandon s.state, s.fetches + n⟩

/-- A source that counts how often it is asked what it holds. -/
def Source.counted (source : Source σ β δ) : Source (Counted σ) β δ where
  fetch := source.fetch.counted 1
  delete d := (source.delete d).counted 0

end

/-! ## What a fleet asks of its sources -/

/-- How often a renewal asks each source. -/
def RefreshMode.fetches : RefreshMode → Nat
  | .live _ => 1
  | .replay => 0

namespace Fleet

variable {κ σ β δ : Type} [Ord κ]

/-- How often each source of a fleet was asked what it holds. -/
def fetches (f : Fleet κ (Counted σ) β) : SortedTable κ Nat :=
  f.sources.mapValues fun _ s => s.fetches

variable {rules : FleetRules κ β δ} {source : Source σ β δ} (f : Fleet κ (Counted σ) β)

theorem fetches_asked : (f.asked source.counted).fetches = f.fetches.raised 1 := by
  simp only [fetches, asked, answers, SortedTable.raised, SortedTable.mapValues_mapValues]
  rfl

/-- A refresh asks each source once, also if it fails. -/
theorem fetches_refreshNow :
    (f.refreshNow rules source.counted).2.fetches = f.fetches.raised 1 := by
  have hasked : (f.asked source.counted).fetches = f.fetches.raised 1 := fetches_asked f
  rw [← hasked, refreshNow]
  split <;> rfl

theorem fetches_load (text : String) : (load rules text f).2.fetches = f.fetches := by
  unfold load
  split <;> rfl

variable [BEq κ] {h : Habits} {folder : SnapshotFolder}

theorem fetches_restore (dir : String) :
    ((manager rules source.counted).restore dir folder f).2.fetches = f.fetches := by
  unfold Manager.restore
  split
  · rfl
  · rename_i text hread
    have hkept : ((manager rules source.counted).load text f).2.fetches = f.fetches :=
      fetches_load f text
    rcases hload : (manager rules source.counted).load text f with ⟨_ | _, f'⟩
    · rw [hload] at hkept
      exact hkept
    · rw [hload] at hkept
      exact hkept

/-- Saving the copy of a fleet changes nothing about the fleet. -/
theorem snd_persist {source : Source σ β δ} {f : Fleet κ σ β} (dir : String) :
    ((manager rules source).persist dir folder f).2.1 = f := by
  unfold Manager.persist
  split
  · rfl
  · have hsave : (manager rules source).save f = (.ok (rules.encode (f.entries.getD .empty)), f) :=
      rfl
    simp only [hsave]
    split <;> rfl

/-- A renewal asks each source as often as its mode says, whatever comes of it. -/
theorem fetches_renew : ((manager rules source.counted).renew h folder f).2.1.fetches
    = f.fetches.raised h.mode.fetches := by
  unfold Manager.renew
  split
  · rename_i hmode
    rw [hmode, RefreshMode.fetches, SortedTable.raised_zero]
    exact fetches_restore f h.dir
  · rename_i persist hmode
    have hasked : ((manager rules source.counted).refresh.within h.limit
        ("refresh " ++ (manager rules source.counted).identity) f).2.fetches
          = f.fetches.raised 1 := by
      obtain habandoned | hrun := Call.snd_within (manager rules source.counted).refresh h.limit
        ("refresh " ++ (manager rules source.counted).identity) f
      · rw [habandoned]
        exact fetches_asked f
      · rw [hrun]
        exact fetches_refreshNow f
    rw [hmode, RefreshMode.fetches]
    rcases hrefresh : (manager rules source.counted).refresh.within h.limit
      ("refresh " ++ (manager rules source.counted).identity) f with ⟨_ | _, f'⟩
    · rw [hrefresh] at hasked
      exact hasked
    · rw [hrefresh] at hasked
      cases persist with
      | false => exact hasked
      | true =>
        simp only [if_true, snd_persist]
        exact hasked

section

variable [LawfulBEq κ] [Std.LawfulEqOrd κ]

/-- A source that was asked no more often leaves the numbers of the fleet as they are. -/
theorem fetches_setSource {key : κ} {s s' : Counted σ} (hs : f.sources.get? key = some s)
    (hsame : s'.fetches = s.fetches) : (f.setSource key s').fetches = f.fetches := by
  rw [fetches, setSource, SortedTable.mapValues_mapValues]
  refine SortedTable.mapValues_congr fun k v hmem => ?_
  -- a key has one source, which is the one that was found
  by_cases hk : k = key
  · subst hk
    obtain rfl := Option.some.inj ((SortedTable.mem_entries_iff.1 hmem).symm.trans hs)
    rw [if_pos BEq.rfl, hsame]
  · rw [if_neg fun heq => hk (eq_of_beq heq)]

theorem fetches_delete (request : δ) (limit : Option Nat) (stage : String) :
    ((delete rules source.counted request).within limit stage f).2.fetches = f.fetches := by
  have habandon : ((delete rules source.counted request).abandon f).fetches = f.fetches := by
    simp only [delete]
    split
    · rfl
    · rename_i s hs
      exact fetches_setSource f hs rfl
  have hrun : ((delete rules source.counted request).run f).2.fetches = f.fetches := by
    simp only [delete]
    split
    · rfl
    · rename_i s hs
      have hsame : (((source.counted.delete request).run s).2).fetches = s.fetches := rfl
      rcases hdelete : (source.counted.delete request).run s with ⟨_ | _, s'⟩
      · rw [hdelete] at hsame
        exact fetches_setSource f hs hsame
      · rw [hdelete] at hsame
        exact fetches_setSource f hs hsame
  obtain heq | heq := Call.snd_within (delete rules source.counted request) limit stage f
  · rw [heq, habandon]
  · rw [heq, hrun]

end

end Fleet

/-! ## What an inventory asks of its sources -/

variable {σ σ' ρ : Type}

/-- Each source was asked so many times more often in one inventory than in another. -/
structure Fetched (n : Nat) (s s' : Inventory (Libraries (Counted σ)) (Clients (Counted σ')) ρ) :
    Prop where
  media : s'.media.fetches = s.media.fetches.raised n
  torrents : s'.torrents.fetches = s.torrents.fetches.raised n

/-- A request starts a refresh if it is one, or if it is to be answered from items that are not
there yet. -/
def Inventory.startsRefresh {μ τ : Type} (s : Inventory μ τ ρ) : Request → Bool
  | .refresh => true
  | .delete _ => false
  | .list _ _ => s.items.isNone
  | .expand id => (MediaId.parse id).isSome && s.items.isNone

/-- What can happen to an inventory and around it. -/
inductive Happening (σ σ' ρ : Type) where
  | request (asked : Asked)
  /-- The snapshots, the way trackers are found and what sources hold change by themselves. -/
  | meanwhile (folder : SnapshotFolder) (trackers : ρ) (library : MediaKind → σ → σ)
    (client : String → σ' → σ')

/-- The fleet after its sources changed by themselves. -/
def Fleet.changedBy {κ β : Type} [Ord κ] (change : κ → σ → σ) (f : Fleet κ (Counted σ) β) :
    Fleet κ (Counted σ) β :=
  { f with sources := f.sources.mapValues fun k s => { s with state := change k s.state } }

theorem Fleet.fetches_changedBy {κ β : Type} [Ord κ] (change : κ → σ → σ)
    (f : Fleet κ (Counted σ) β) : (f.changedBy change).fetches = f.fetches := by
  rw [fetches, changedBy, SortedTable.mapValues_mapValues]
  rfl

namespace Fetched

variable {s s₁ s' : Inventory (Libraries (Counted σ)) (Clients (Counted σ')) ρ} {m n : Nat}

theorem of_eq (hmedia : s'.media.fetches = s.media.fetches)
    (htorrents : s'.torrents.fetches = s.torrents.fetches) : Fetched 0 s s' where
  media := by rw [SortedTable.raised_zero, hmedia]
  torrents := by rw [SortedTable.raised_zero, htorrents]

theorem trans (h : Fetched m s s₁) (h' : Fetched n s₁ s') : Fetched (m + n) s s' where
  media := by rw [h'.media, h.media, SortedTable.raised_raised]
  torrents := by rw [h'.torrents, h.torrents, SortedTable.raised_raised]

end Fetched

namespace Inventory

variable (library : MediaSource σ) (client : TorrentSource σ') (trackers : TrackerResolver ρ)
  (habits : Habits) (now : Instant)

/-- The backends of an inventory whose sources count. -/
abbrev countingFleets :
    Backends (Libraries (Counted σ)) (Clients (Counted σ')) ρ :=
  fleets library.counted client.counted trackers habits

/-- What an inventory is after something happened. -/
def next (s : Inventory (Libraries (Counted σ)) (Clients (Counted σ')) ρ) :
    Happening σ σ' ρ → Inventory (Libraries (Counted σ)) (Clients (Counted σ')) ρ
  | .request asked =>
    (s.perform (countingFleets library client trackers habits) asked.now asked.request).2
  | .meanwhile folder found library client =>
    { s with folder, trackers := found, media := s.media.changedBy library,
             torrents := s.torrents.changedBy client }

/-- What an inventory is after several things happened. -/
def after (s : Inventory (Libraries (Counted σ)) (Clients (Counted σ')) ρ)
    (happenings : List (Happening σ σ' ρ)) :
    Inventory (Libraries (Counted σ)) (Clients (Counted σ')) ρ :=
  happenings.foldl (next library client trackers habits) s

/-- How many refreshes are started by what happens. -/
def startedBy (s : Inventory (Libraries (Counted σ)) (Clients (Counted σ')) ρ) :
    Happening σ σ' ρ → Nat
  | .request asked => (s.startsRefresh asked.request).toNat
  | .meanwhile _ _ _ _ => 0

/-- How many refreshes are started while several things happen. -/
def refreshesStarted (s : Inventory (Libraries (Counted σ)) (Clients (Counted σ')) ρ) :
    List (Happening σ σ' ρ) → Nat
  | [] => 0
  | happening :: rest =>
    s.startedBy happening +
      refreshesStarted (s.next library client trackers habits happening) rest

variable {library client trackers habits now}
  (s : Inventory (Libraries (Counted σ)) (Clients (Counted σ')) ρ)

/-! ### Refreshing -/

/-- Gathering renews each copy once. If both were renewed, then the managers are listed from their
copies. -/
theorem fetched_gather : Fetched habits.mode.fetches s
    (s.gather (countingFleets library client trackers habits)).2 := by
  rcases ht : (Clients.manager client.counted).renew habits s.folder s.torrents
    with ⟨torrents, t, folder⟩
  rcases hm : (Libraries.manager library.counted).renew habits folder s.media
    with ⟨media, m, folder'⟩
  have htorrents : t.fetches = s.torrents.fetches.raised habits.mode.fetches := by
    have hrenew : ((Clients.manager client.counted).renew habits s.folder s.torrents).2.1.fetches
        = s.torrents.fetches.raised habits.mode.fetches := Fleet.fetches_renew s.torrents
    rwa [ht] at hrenew
  have hmedia : m.fetches = s.media.fetches.raised habits.mode.fetches := by
    have hrenew : ((Libraries.manager library.counted).renew habits folder s.media).2.1.fetches
        = s.media.fetches.raised habits.mode.fetches := Fleet.fetches_renew s.media
    rwa [hm] at hrenew
  simp only [gather, renewTorrents, renewMedia, fleets, ht, hm]
  split
  · rename_i hnone
    -- both renewals succeeded, so both fleets hold something and are not asked again
    obtain ⟨rfl, rfl⟩ := failures_eq_nil hnone
    obtain ⟨held, hheld, -⟩ := Fleet.exists_entries_of_renew hm
    obtain ⟨found, hfound, -⟩ := Fleet.exists_entries_of_renew ht
    have hlistMedia : (Libraries.manager library.counted).contents.within habits.limit "get media" m
        = (.ok held.values.flatten, m) := Fleet.contents_within_of_entries hheld _ _
    have hlistTorrents : (Clients.manager client.counted).contents.within habits.limit
        "get torrents" t = (.ok found.values.flatten, t) :=
      Fleet.contents_within_of_entries hfound _ _
    simp only [heldMedia, heldTorrents, hlistMedia, hlistTorrents]
    exact ⟨hmedia, htorrents⟩
  · exact ⟨hmedia, htorrents⟩

theorem fetched_refresh : Fetched habits.mode.fetches s
    (s.refresh (countingFleets library client trackers habits) now).2 := by
  have hgather : Fetched habits.mode.fetches s
      (s.gather (countingFleets library client trackers habits)).2 := fetched_gather s
  rw [refresh_eq_gather]
  rcases hg : s.gather (countingFleets library client trackers habits)
    with ⟨_ | ⟨media, torrents⟩, s₁⟩
  · rw [hg] at hgather
    exact hgather
  · rw [hg] at hgather
    -- publishing leaves the managers alone
    simp only [publish]
    split <;> exact ⟨hgather.media, hgather.torrents⟩

/-! ### Deleting -/

theorem fetched_make (c : DeletionCall) (title : String) :
    Fetched 0 s (c.make (countingFleets library client trackers habits) title s).2 := by
  cases c with
  | torrent key => exact .of_eq rfl (Fleet.fetches_delete s.torrents key _ _)
  | files d => exact .of_eq (Fleet.fetches_delete s.media d _ _) rfl

theorem fetched_of_follows {title : String} {plan made : List DeletionCall}
    {s s' : Inventory (Libraries (Counted σ)) (Clients (Counted σ')) ρ}
    {result : Except InventoryError Unit}
    (h : Follows (countingFleets library client trackers habits) title plan s made result s') :
    Fetched 0 s s' := by
  induction h with
  | finished s => exact .of_eq rfl rfl
  | @next c rest made s s₁ s₂ answer result hmake hgo h ih =>
    have hcall : Fetched 0 s (c.make (countingFleets library client trackers habits) title s).2 :=
      fetched_make s c title
    rw [hmake] at hcall
    exact hcall.trans ih
  | @stopped c rest s s₁ e hmake hstop =>
    have hcall : Fetched 0 s (c.make (countingFleets library client trackers habits) title s).2 :=
      fetched_make s c title
    rw [hmake] at hcall
    exact hcall

theorem fetched_delete (text : String) :
    Fetched 0 s (s.delete (countingFleets library client trackers habits) text).2 := by
  obtain ⟨e, he⟩ | ⟨id, before, item, after, made, result, s', -, hcalls, hdelete⟩ :=
    delete_refused_or_follows (countingFleets library client trackers habits) text s
  · rw [he]
    exact .of_eq rfl rfl
  · have hkept := fetched_of_follows hcalls
    rw [hdelete]
    cases result with
    | ok => exact ⟨hkept.media, hkept.torrents⟩
    | error e => exact hkept

/-! ### Any request -/

theorem fetched_populated : Fetched (s.items.isNone.toNat * habits.mode.fetches) s
    (s.populated (countingFleets library client trackers habits) now).2 := by
  unfold populated
  cases s.items with
  | some items =>
    rw [Option.isNone_some, Bool.toNat_false, Nat.zero_mul]
    exact .of_eq rfl rfl
  | none =>
    rw [Option.isNone_none, Bool.toNat_true, Nat.one_mul]
    exact fetched_refresh s

/-- What a request leaves behind is what the refresh or the deletion in it leaves behind. -/
theorem fetched_perform (request : Request) :
    Fetched ((s.startsRefresh request).toNat * habits.mode.fetches) s
      (s.perform (countingFleets library client trackers habits) now request).2 := by
  have hpopulated : Fetched (s.items.isNone.toNat * habits.mode.fetches) s
      (s.populated (countingFleets library client trackers habits) now).2 := fetched_populated s
  cases request with
  | refresh =>
    rw [startsRefresh, Bool.toNat_true, Nat.one_mul]
    exact fetched_refresh s
  | delete text =>
    rw [startsRefresh, Bool.toNat_false, Nat.zero_mul]
    exact fetched_delete s text
  | list page sorting =>
    rw [startsRefresh, perform, list]
    rcases hp : s.populated (countingFleets library client trackers habits) now with ⟨_ | _, s₁⟩
    · rw [hp] at hpopulated
      exact hpopulated
    · rw [hp] at hpopulated
      exact hpopulated
  | expand text =>
    rw [startsRefresh, perform, expand]
    cases MediaId.parse text with
    | none =>
      rw [Option.isSome_none, Bool.false_and, Bool.toNat_false, Nat.zero_mul]
      exact .of_eq rfl rfl
    | some id =>
      rw [Option.isSome_some, Bool.true_and]
      rcases hp : s.populated (countingFleets library client trackers habits) now with ⟨_ | _, s₁⟩
      · rw [hp] at hpopulated
        exact hpopulated
      · rw [hp] at hpopulated
        exact hpopulated

theorem fetched_next (happening : Happening σ σ' ρ) :
    Fetched (s.startedBy happening * habits.mode.fetches) s
      (s.next library client trackers habits happening) := by
  cases happening with
  | request asked => exact fetched_perform s asked.request
  | meanwhile folder found library' client' =>
    rw [startedBy, Nat.zero_mul]
    exact .of_eq (Fleet.fetches_changedBy library' s.media)
      (Fleet.fetches_changedBy client' s.torrents)

theorem fetched_after (happenings : List (Happening σ σ' ρ)) :
    Fetched (s.refreshesStarted library client trackers habits happenings * habits.mode.fetches) s
      (s.after library client trackers habits happenings) := by
  induction happenings generalizing s with
  | nil =>
    rw [refreshesStarted, Nat.zero_mul]
    exact .of_eq rfl rfl
  | cons happening rest ih =>
    rw [refreshesStarted, Nat.add_mul]
    exact (fetched_next s happening).trans (ih _)

/-- A read that finds items calls no manager and leaves the inventory as it is. -/
theorem perform_recorded_of_isRead {μ τ : Type} {b : Backends μ τ ρ} {s : Inventory μ τ ρ}
    {items : List Item} (hitems : s.items = some items) {request : Request}
    (hread : request.isRead = true) (mediaLog : List (ManagerCall FileDeletion))
    (torrentLog : List (ManagerCall TorrentKey)) :
    ((s.logged mediaLog torrentLog).perform b.recorded now request).2
      = s.logged mediaLog torrentLog := by
  have hlogged : (s.logged mediaLog torrentLog).items = some items := hitems
  cases request with
  | refresh => cases hread
  | delete text => cases hread
  | list page sorting => simp only [perform, list, populated, hlogged]
  | expand text =>
    cases hid : MediaId.parse text with
    | none => simp only [perform, expand, hid]
    | some id => simp only [perform, expand, hid, populated, hlogged]

/-- In live mode each source was asked once for each refresh that was started, and in replay mode
none was ever asked. A read that finds items calls no manager. -/
theorem fetches_of_refreshes (library : MediaSource σ) (client : TorrentSource σ')
    (trackers : TrackerResolver ρ) (habits : Habits)
    (s : Inventory (Libraries (Counted σ)) (Clients (Counted σ')) ρ)
    (happenings : List (Happening σ σ' ρ)) :
    let b := fleets library.counted client.counted trackers habits
    let s' := s.after library client trackers habits happenings
    let started := s.refreshesStarted library client trackers habits happenings
    (∀ persist, habits.mode = .live persist →
      s'.media.fetches = s.media.fetches.mapValues (fun _ n => n + started) ∧
      s'.torrents.fetches = s.torrents.fetches.mapValues (fun _ n => n + started)) ∧
    (habits.mode = .replay →
      s'.media.fetches = s.media.fetches ∧ s'.torrents.fetches = s.torrents.fetches) ∧
    ∀ now request items, request.isRead = true → s'.items = some items →
      ∀ mediaLog torrentLog, ((s'.logged mediaLog torrentLog).perform b.recorded now request).2
        = s'.logged mediaLog torrentLog := by
  intro b s' started
  have hfetched : Fetched (started * habits.mode.fetches) s s' := fetched_after s happenings
  refine ⟨fun persist hmode => ?_, fun hmode => ?_, fun now request items hread hitems => ?_⟩
  · rw [hmode, RefreshMode.fetches, Nat.mul_one] at hfetched
    exact ⟨hfetched.media, hfetched.torrents⟩
  · rw [hmode, RefreshMode.fetches, Nat.mul_zero] at hfetched
    have hmedia := hfetched.media
    have htorrents := hfetched.torrents
    rw [SortedTable.raised_zero] at hmedia htorrents
    exact ⟨hmedia, htorrents⟩
  · exact perform_recorded_of_isRead hitems hread

end Inventory

/-! ## Some requests in either mode -/

namespace Sample

/-- The persisting inventory before its sources were ever asked. -/
def counting : Inventory (Libraries (Counted MemoryLibrary)) (Clients (Counted MemoryClient))
    Trackers where
  media := ⟨persisting.media.sources.mapValues fun _ s => ⟨s, 0⟩, none⟩
  torrents := ⟨persisting.torrents.sources.mapValues fun _ s => ⟨s, 0⟩, none⟩
  trackers := .rules rules

/-- Two reads, the first of which fails as the clients do, a third one after the clients recovered,
a deletion and a refresh. -/
def visits : List (Happening MemoryLibrary MemoryClient Trackers) :=
  let read : Happening MemoryLibrary MemoryClient Trackers :=
    .request ⟨.list 1 {}, ⟨0, 0⟩⟩
  let clients (e : Option SourceError) : Happening MemoryLibrary MemoryClient Trackers :=
    .meanwhile .missing (.rules rules) (fun _ s => s) (fun _ s => { s with fetchError := e })
  [clients (some .timeout), read, clients none, read, read,
    .request ⟨.delete "movie-1", ⟨0, 0⟩⟩, .request ⟨.refresh, ⟨0, 0⟩⟩]

/-- The counting inventory after the visits. -/
def visited (mode : RefreshMode) : Inventory (Libraries (Counted MemoryLibrary))
    (Clients (Counted MemoryClient)) Trackers :=
  counting.after MemorySource.source MemorySource.source Trackers.resolver ⟨mode, none, ""⟩ visits

end Sample

open Sample in
theorem each_source_asked_three_times :
    (visited (.live false)).media.fetches.entries = [(.movie, 3), (.series, 3)] ∧
    (visited (.live false)).torrents.fetches.entries = [("deluge", 3), ("qbit", 3)] ∧
    (visited .replay).media.fetches.entries = [(.movie, 0), (.series, 0)] ∧
    (visited .replay).torrents.fetches.entries = [("deluge", 0), ("qbit", 0)] ∧
    (visited (.live false)).items.isSome = true ∧
    (((visited (.live false)).logged [] []).perform
      (Inventory.fleets MemorySource.source.counted MemorySource.source.counted Trackers.resolver
        ⟨.live false, none, ""⟩).recorded ⟨0, 0⟩ (.list 1 {})).2
        = (visited (.live false)).logged [] [] := by
  have hstarted : counting.refreshesStarted MemorySource.source MemorySource.source
      Trackers.resolver ⟨.live false, none, ""⟩ visits = 3 := by decide +kernel
  have hitems : (visited (.live false)).items.isSome = true := by decide +kernel
  obtain ⟨items, hsome⟩ := Option.isSome_iff_exists.1 hitems
  obtain ⟨hlive, -, hread⟩ := Inventory.fetches_of_refreshes MemorySource.source
    MemorySource.source Trackers.resolver ⟨.live false, none, ""⟩ counting visits
  obtain ⟨-, hreplay, -⟩ := Inventory.fetches_of_refreshes MemorySource.source
    MemorySource.source Trackers.resolver ⟨.replay, none, ""⟩ counting visits
  obtain ⟨hmedia, htorrents⟩ := hlive false rfl
  obtain ⟨hnone, hnone'⟩ := hreplay rfl
  rw [hstarted] at hmedia htorrents
  refine ⟨?_, ?_, ?_, ?_, hitems, hread ⟨0, 0⟩ _ items rfl hsome [] []⟩
  · exact (congrArg SortedTable.entries hmedia).trans rfl
  · exact (congrArg SortedTable.entries htorrents).trans rfl
  · exact (congrArg SortedTable.entries hnone).trans rfl
  · exact (congrArg SortedTable.entries hnone').trans rfl

end SeedCleanup

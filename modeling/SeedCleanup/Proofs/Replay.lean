import SeedCleanup.Media.Backend
import SeedCleanup.Proofs.RefreshTheorems
import SeedCleanup.Proofs.RetentionSafety
import SeedCleanup.Proofs.SnapshotTheorems
import SeedCleanup.Torrent.Backend

/-!
# Replaying what was persisted

An inventory that persists what it refreshed can be rebuilt from disk: a refresh that replays the
snapshots publishes the same items in the same order (`replay_of_persisted`), whatever its backends
would have reported. The items are evaluated from what both sides list and from what the trackers
answer, so it is enough that the snapshots list the same and that the trackers answer alike.
-/

namespace SeedCleanup

/-! ## Resolvers that answer alike -/

namespace TrackerResolver

variable {σ σ' : Type}

/-- What a resolver answers to searches, one after the other. -/
def answers (r : TrackerResolver σ) : σ → List (List String) → List (Except TrackerError Tracker)
  | _, [] => []
  | s, hosts :: rest => (r.resolve s hosts).1 :: r.answers (r.resolve s hosts).2 rest

/-- Two resolvers that no searches tell apart. -/
def AnswersAs (r : TrackerResolver σ) (s : σ) (r' : TrackerResolver σ') (s' : σ') : Prop :=
  ∀ searches, r.answers s searches = r'.answers s' searches

variable {r : TrackerResolver σ} {r' : TrackerResolver σ'} {s : σ} {s' : σ'}

/-- Resolvers that answer by one function answer alike, whatever was searched before. -/
theorem AnswersAt.answersAs {answer : List String → Except TrackerError Tracker}
    (h : r.AnswersAt s answer) (h' : r'.AnswersAt s' answer) : r.AnswersAs s r' s' := by
  intro searches
  induction searches with
  | nil => rfl
  | cons hosts rest ih =>
    rw [answers, answers, h hosts, h' hosts]
    exact congrArg _ ih

/-- Results of either resolver: one answer, and two states that answer alike from then on. -/
inductive Agree (r : TrackerResolver σ) (r' : TrackerResolver σ') {α : Type} :
    α × σ → α × σ' → Prop
  | intro {answer : α} {s : σ} {s' : σ'} (h : r.AnswersAs s r' s') :
    Agree r r' (answer, s) (answer, s')

/-- Results that agree are both failures, with the same error, or both successes. -/
theorem Agree.cases {ε α : Type} {x : Except ε α × σ} {x' : Except ε α × σ'} (h : Agree r r' x x') :
    (∃ e s s', x = (.error e, s) ∧ x' = (.error e, s') ∧ r.AnswersAs s r' s') ∨
      ∃ a s s', x = (.ok a, s) ∧ x' = (.ok a, s') ∧ r.AnswersAs s r' s' := by
  obtain ⟨hnext⟩ := h
  rename_i answer s s'
  cases answer with
  | error e => exact .inl ⟨e, s, s', rfl, rfl, hnext⟩
  | ok a => exact .inr ⟨a, s, s', rfl, rfl, hnext⟩

theorem AnswersAs.resolve (h : r.AnswersAs s r' s') (hosts : List String) :
    Agree r r' (r.resolve s hosts) (r'.resolve s' hosts) := by
  have hanswer : (r.resolve s hosts).1 = (r'.resolve s' hosts).1 := (List.cons.inj (h [hosts])).1
  have hnext : r.AnswersAs (r.resolve s hosts).2 r' (r'.resolve s' hosts).2 :=
    fun searches => (List.cons.inj (h (hosts :: searches))).2
  rcases hr : r.resolve s hosts with ⟨answer, next⟩
  rcases hr' : r'.resolve s' hosts with ⟨answer', next'⟩
  rw [hr, hr'] at hanswer hnext
  obtain rfl : answer = answer' := hanswer
  exact .intro hnext

variable (now : Instant)

theorem AnswersAs.verdict (h : r.AnswersAs s r' s') (title : Title) (f : LinkedFile) :
    Agree r r' (f.verdict r now title s) (f.verdict r' now title s') := by
  cases ht : f.torrent with
  | none =>
    simp only [LinkedFile.verdict, ht]
    exact .intro h
  | some t =>
    obtain ⟨e, _, _, hr, hr', hnext⟩ | ⟨tracker, _, _, hr, hr', hnext⟩ :=
      (h.resolve t.trackers).cases
    · simp only [LinkedFile.verdict, ht, hr, hr']
      split
      · exact .intro hnext
      · exact .intro hnext
    · simp only [LinkedFile.verdict, ht, hr, hr']
      exact .intro hnext

theorem AnswersAs.verdictsOfFiles (h : r.AnswersAs s r' s') (title : Title)
    (files : List LinkedFile) :
    Agree r r' (verdictsOfFiles r now title files s) (verdictsOfFiles r' now title files s') := by
  induction files generalizing s s' with
  | nil => exact .intro h
  | cons f rest ih =>
    obtain ⟨e, _, _, hf, hf', hnext⟩ | ⟨v, _, _, hf, hf', hnext⟩ := (h.verdict now title f).cases
    · simp only [SeedCleanup.verdictsOfFiles, hf, hf']
      exact .intro hnext
    · obtain ⟨e, _, _, hrest, hrest', hlast⟩ | ⟨vs, _, _, hrest, hrest', hlast⟩ := (ih hnext).cases
      · simp only [SeedCleanup.verdictsOfFiles, hf, hf', hrest, hrest']
        exact .intro hlast
      · simp only [SeedCleanup.verdictsOfFiles, hf, hf', hrest, hrest']
        exact .intro hlast

theorem AnswersAs.evaluate (h : r.AnswersAs s r' s') (media : LinkedTitle) :
    Agree r r' (media.evaluate r now s) (media.evaluate r' now s') := by
  obtain ⟨e, _, _, hv, hv', hnext⟩ | ⟨vs, _, _, hv, hv', hnext⟩ :=
    (h.verdictsOfFiles now media.title media.files).cases
  · simp only [LinkedTitle.evaluate, hv, hv']
    exact .intro hnext
  · simp only [LinkedTitle.evaluate, hv, hv']
    exact .intro hnext

/-- Titles are evaluated to the same items by resolvers that answer alike. -/
theorem AnswersAs.ofLinked (h : r.AnswersAs s r' s') (linked : List LinkedTitle) :
    Agree r r' (Item.ofLinked r now linked s) (Item.ofLinked r' now linked s') := by
  induction linked generalizing s s' with
  | nil => exact .intro h
  | cons media rest ih =>
    obtain ⟨e, _, _, hm, hm', hnext⟩ | ⟨report, _, _, hm, hm', hnext⟩ :=
      (h.evaluate now media).cases
    · simp only [Item.ofLinked, hm, hm']
      exact .intro hnext
    · obtain ⟨e, _, _, hrest, hrest', hlast⟩ | ⟨items, _, _, hrest, hrest', hlast⟩ :=
        (ih hnext).cases
      · simp only [Item.ofLinked, hm, hm', hrest, hrest']
        exact .intro hlast
      · simp only [Item.ofLinked, hm, hm', hrest, hrest']
        exact .intro hlast

end TrackerResolver

/-! ## Replaying -/

namespace Inventory

section

variable {σ τ ρ : Type} {library : MediaSource σ} {client : TorrentSource τ}
  {trackers : TrackerResolver ρ} {habits : Habits} {now : Instant}
  {s s' : Inventory (Libraries σ) (Clients τ) ρ} {items : List Item}

/-- The backends of an inventory over fleets of libraries and of clients. -/
def fleets (library : MediaSource σ) (client : TorrentSource τ) (trackers : TrackerResolver ρ)
    (habits : Habits) : Backends (Libraries σ) (Clients τ) ρ :=
  ⟨Libraries.manager library, Clients.manager client, trackers, habits⟩

/-- Every library reports titles of its own kind only, and every ratio that a client reports is a
real number. -/
structure ReportsWell (library : MediaSource σ) (client : TorrentSource τ)
    (s : Inventory (Libraries σ) (Clients τ) ρ) : Prop where
  kinds : ∀ kind l, s.media.Reports library kind l → ∀ e ∈ l, e.title.kind = kind
  ratios : ∀ name l, s.torrents.Reports client name l → ∀ t ∈ l, t.ratio.isFinite = true

/-- The times that the backends report, and the ratios that are real numbers, have texts that are
read back. -/
structure ReadsBack (library : MediaSource σ) (client : TorrentSource τ)
    (s : Inventory (Libraries σ) (Clients τ) ρ) : Prop where
  titles : ∀ kind l, s.media.Reports library kind l → ∀ e ∈ l, e.title.added.ReadsBack
  torrents : ∀ name l, s.torrents.Reports client name l → ∀ t ∈ l, t.added.ReadsBack
  ratios : ∀ name l, s.torrents.Reports client name l → ∀ t ∈ l, t.ratio.isFinite = true →
    (Number.real t.ratio).ReadsBack

theorem keeps_libraries (hwell : s.ReportsWell library client) (hback : s.ReadsBack library client)
    {t : SortedTable MediaKind (List MediaEntry)}
    (hreports : ∀ kind l, (kind, l) ∈ t.entries → s.media.Reports library kind l) :
    Fleet.Keeps Libraries.rules t := by
  apply Libraries.keeps_of_own
  · intro kind l hmem
    exact hwell.kinds kind l (hreports kind l hmem)
  · intro kind l hmem
    exact hback.titles kind l (hreports kind l hmem)

theorem keeps_clients (hwell : s.ReportsWell library client) (hback : s.ReadsBack library client)
    {t : SortedTable String (List Torrent)}
    (hreports : ∀ name l, (name, l) ∈ t.entries → s.torrents.Reports client name l) :
    Fleet.Keeps Clients.rules t := by
  apply Clients.keeps_of_readsBack
  intro name l hmem torrent htorrent
  have hreported := hreports name l hmem
  have hfinite := hwell.ratios name l hreported torrent htorrent
  exact ⟨hfinite, hback.ratios name l hreported torrent htorrent hfinite,
    hback.torrents name l hreported torrent htorrent⟩

/-- After a refresh that persists, the snapshots of both sides list what the items were made of. -/
theorem saved_of_refresh (hwell : s.ReportsWell library client)
    (hback : s.ReadsBack library client) (hmode : habits.mode ≠ .live false)
    (hrefresh : s.refresh (fleets library client trackers habits) now = (.ok items, s')) :
    ∃ held found after, Fleet.SavedIn Libraries.rules s'.folder held ∧
      Fleet.SavedIn Clients.rules s'.folder found ∧
      Item.ofLinked trackers now (linkMedia held found) s.trackers = (.ok items, after) := by
  cases refreshed_of_refresh hrefresh with
  | intro htorrents hmedia hheld hfound hitems =>
    -- the torrents are saved first, and saving the media leaves their file alone
    obtain ⟨t, ht, hclients⟩ :=
      Fleet.savedIn_of_renew (fun _ => keeps_clients hwell hback) hmode htorrents
    obtain ⟨m, hm, hlibraries⟩ :=
      Fleet.savedIn_of_renew (fun _ => keeps_libraries hwell hback) hmode hmedia
    have hother : snapshotName Clients.rules.identity
        ≠ snapshotName (Libraries.manager library).identity :=
      snapshotName_libraries_ne_clients.symm
    have hclients' := hclients.of_renew hother hmedia
    obtain ⟨rfl, -⟩ := Fleet.eq_of_contents_within hm hheld
    obtain ⟨rfl, -⟩ := Fleet.eq_of_contents_within ht hfound
    exact ⟨_, _, _, hlibraries, hclients', hitems⟩

/-- A refresh that replays snapshots publishes the items of what they list. -/
theorem refresh_of_saved {held : List MediaEntry} {found : List Torrent} {after : ρ}
    (hlibraries : Fleet.SavedIn Libraries.rules s.folder held)
    (hclients : Fleet.SavedIn Clients.rules s.folder found) (hmode : habits.mode = .replay)
    (hitems : Item.ofLinked trackers now (linkMedia held found) s.trackers = (.ok items, after)) :
    ∃ s', s.refresh (fleets library client trackers habits) now = (.ok items, s') ∧
      s'.items = some items := by
  obtain ⟨torrents, t, htorrents, ht, rfl⟩ := hclients.exists_renew hmode client s.torrents
  obtain ⟨media, m, hmedia, hm, rfl⟩ := hlibraries.exists_renew hmode library s.media
  let b := fleets library client trackers habits
  have htorrents : b.torrents.renew b.habits s.folder s.torrents = (.ok (), torrents, s.folder) :=
    htorrents
  have hmedia : b.media.renew b.habits s.folder s.media = (.ok (), media, s.folder) := hmedia
  have hheld : b.media.contents.within b.habits.limit "get media" media
      = (.ok m.values.flatten, media) := Fleet.contents_within_of_entries hm _ _
  have hfound : b.torrents.contents.within b.habits.limit "get torrents" torrents
      = (.ok t.values.flatten, torrents) := Fleet.contents_within_of_entries ht _ _
  have hitems : Item.ofLinked b.trackers now
      (linkMedia m.values.flatten t.values.flatten) s.trackers = (.ok items, after) := hitems
  refine ⟨⟨media, torrents, after, s.folder, some items⟩, ?_, rfl⟩
  show s.refresh b now = _
  simp only [refresh, renewTorrents, htorrents, finishRefresh, renewMedia, hmedia, failures,
    List.append_nil, rebuild, heldMedia, hheld, heldTorrents, hfound, publish, hitems]

end

/-- What an inventory over libraries and clients persisted with its items is enough to publish the
same items again, in the same order: by any other inventory over libraries and clients that replays
the snapshots in the same directory at the same time, with trackers that answer alike. -/
theorem replay_of_persisted {σ τ ρ σ' τ' ρ' : Type} {library : MediaSource σ}
    {client : TorrentSource τ} {trackers : TrackerResolver ρ} {library' : MediaSource σ'}
    {client' : TorrentSource τ'} {trackers' : TrackerResolver ρ'}
    {settings settings' : InventorySettings} {dir : String} {now : Instant}
    {s s' : Inventory (Libraries σ) (Clients τ) ρ} {items : List Item}
    (hwell : s.ReportsWell library client) (hback : s.ReadsBack library client)
    (hpersist : settings.persist = true)
    (hrefresh : s.refresh (fleets library client trackers (settings.habits dir)) now
      = (.ok items, s'))
    (hcached : settings'.useCachedCopy = true)
    {other : Inventory (Libraries σ') (Clients τ') ρ'} (hfolder : other.folder = s'.folder)
    (hanswers : trackers.AnswersAs s.trackers trackers' other.trackers) :
    ∃ other', other.refresh (fleets library' client' trackers' (settings'.habits dir)) now
        = (.ok items, other') ∧
      s'.items = some items ∧ other'.items = some items := by
  have hmode : (settings.habits dir).mode ≠ .live false := by
    show settings.mode ≠ _
    rw [InventorySettings.mode, hpersist]
    split
    · decide
    · decide
  have hreplay : (settings'.habits dir).mode = .replay := by
    show settings'.mode = _
    rw [InventorySettings.mode, hcached, if_pos rfl]
  obtain ⟨held, found, after, hlibraries, hclients, hitems⟩ :=
    saved_of_refresh hwell hback hmode hrefresh
  rw [← hfolder] at hlibraries hclients
  -- the trackers find the same reports, since both sides list the same again
  obtain ⟨e, _, _, herror, -, -⟩ | ⟨items', _, after', hok, hok', -⟩ :=
    (hanswers.ofLinked now (linkMedia held found)).cases
  · rw [herror] at hitems
    cases hitems
  · rw [hok] at hitems
    obtain ⟨hsame, -⟩ := Prod.mk.inj hitems
    rw [Except.ok.inj hsame] at hok'
    obtain ⟨other', hother, hpublished⟩ := refresh_of_saved hlibraries hclients hreplay hok'
    refine ⟨other', hother, ?_, hpublished⟩
    cases refreshed_of_refresh hrefresh with
    | intro => rfl

end Inventory

namespace Sample

/-- A series with a name that is not written as it is. -/
def quotedSeries : MediaEntry :=
  ⟨⟨5, .series, "The \"Beta\"", "", ⟨3, 500000000⟩⟩, [⟨20, 1, "beta.mkv", 300⟩]⟩

/-- The torrent of the series, held by another client. -/
def delugeTorrent : Torrent :=
  ⟨"deluge", "b", "beta", .ofRatio false 3 2, ⟨4, 0⟩, ["tracker.org"], [⟨"beta.mkv", 300⟩]⟩

def persisting : Inventory (Libraries MemoryLibrary) (Clients MemoryClient) Trackers where
  media := .ofSources [(.series, { held := [quotedSeries] }), (.movie, { held := [movie] })]
  torrents := .ofSources [("qbit", { held := [torrent] }), ("deluge", { held := [delugeTorrent] })]
  trackers := .rules rules

def persistingBackends : Backends (Libraries MemoryLibrary) (Clients MemoryClient) Trackers :=
  Inventory.fleets MemorySource.source MemorySource.source Trackers.resolver
    (InventorySettings.habits { persist := true } "cache")

/-- The persisting inventory after a refresh. -/
def persisted : Inventory (Libraries MemoryLibrary) (Clients MemoryClient) Trackers :=
  (persisting.refresh persistingBackends ⟨0, 0⟩).2

/-- An inventory whose backends hold nothing, in the directory that was left behind. -/
def replaying : Inventory (Libraries MemoryLibrary) (Clients MemoryClient) Trackers where
  media := .ofSources []
  torrents := .ofSources []
  trackers := .rules rules
  folder := persisted.folder

def replayingBackends : Backends (Libraries MemoryLibrary) (Clients MemoryClient) Trackers :=
  Inventory.fleets MemorySource.source MemorySource.source Trackers.resolver
    (InventorySettings.habits { useCachedCopy := true } "cache")

theorem reports_libraries {kind : MediaKind} {l : List MediaEntry}
    (h : persisting.media.Reports MemorySource.source kind l) :
    (kind = .movie ∧ l = [movie]) ∨ kind = .series ∧ l = [quotedSeries] := by
  obtain ⟨st, hmem, hfetch⟩ := h
  obtain heq | hmem := List.mem_cons.1 hmem
  · obtain ⟨rfl, rfl⟩ := Prod.mk.inj heq
    exact .inl ⟨rfl, (Except.ok.inj hfetch).symm⟩
  · obtain ⟨rfl, rfl⟩ := Prod.mk.inj (List.mem_singleton.1 hmem)
    exact .inr ⟨rfl, (Except.ok.inj hfetch).symm⟩

theorem reports_clients {name : String} {l : List Torrent}
    (h : persisting.torrents.Reports MemorySource.source name l) :
    l = [delugeTorrent] ∨ l = [torrent] := by
  obtain ⟨st, hmem, hfetch⟩ := h
  obtain heq | hmem := List.mem_cons.1 hmem
  · obtain ⟨rfl, rfl⟩ := Prod.mk.inj heq
    exact .inl (Except.ok.inj hfetch).symm
  · obtain ⟨rfl, rfl⟩ := Prod.mk.inj (List.mem_singleton.1 hmem)
    exact .inr (Except.ok.inj hfetch).symm

theorem torrent_readsBack : torrent.ReadsBack :=
  ⟨by decide +kernel, by decide +kernel, by decide +kernel⟩

theorem delugeTorrent_readsBack : delugeTorrent.ReadsBack :=
  ⟨by decide +kernel, by decide +kernel, by decide +kernel⟩

theorem reportsWell_persisting :
    persisting.ReportsWell MemorySource.source MemorySource.source where
  kinds kind l h e he := by
    obtain ⟨rfl, rfl⟩ | ⟨rfl, rfl⟩ := reports_libraries h
    · rw [List.mem_singleton.1 he]
      rfl
    · rw [List.mem_singleton.1 he]
      rfl
  ratios name l h t ht := by
    obtain rfl | rfl := reports_clients h
    · rw [List.mem_singleton.1 ht]
      exact delugeTorrent_readsBack.finite
    · rw [List.mem_singleton.1 ht]
      exact torrent_readsBack.finite

theorem readsBack_persisting : persisting.ReadsBack MemorySource.source MemorySource.source where
  titles kind l h e he := by
    obtain ⟨-, rfl⟩ | ⟨-, rfl⟩ := reports_libraries h
    · rw [List.mem_singleton.1 he]
      decide +kernel
    · rw [List.mem_singleton.1 he]
      decide +kernel
  torrents name l h t ht := by
    obtain rfl | rfl := reports_clients h
    · rw [List.mem_singleton.1 ht]
      exact delugeTorrent_readsBack.added
    · rw [List.mem_singleton.1 ht]
      exact torrent_readsBack.added
  ratios name l h t ht _ := by
    obtain rfl | rfl := reports_clients h
    · rw [List.mem_singleton.1 ht]
      exact delugeTorrent_readsBack.ratio
    · rw [List.mem_singleton.1 ht]
      exact torrent_readsBack.ratio

end Sample

open Sample in
theorem replayed_sample :
    ∃ items replayed, replaying.refresh replayingBackends ⟨0, 0⟩ = (.ok items, replayed) ∧
      persisted.items = some items ∧ replayed.items = some items ∧
      items.map (·.linked.title.name) = ["Alpha", "The \"Beta\""] := by
  have hnames : (persisting.refresh persistingBackends ⟨0, 0⟩).1.toOption.map
      (·.map (·.linked.title.name)) = some ["Alpha", "The \"Beta\""] := by
    decide +kernel
  rcases hrefresh : persisting.refresh persistingBackends ⟨0, 0⟩ with ⟨e | items, s'⟩
  · rw [hrefresh] at hnames
    cases hnames
  · rw [hrefresh] at hnames
    have hfolder : replaying.folder = s'.folder := by
      show (persisting.refresh persistingBackends ⟨0, 0⟩).2.folder = _
      rw [hrefresh]
    have hcached : InventorySettings.useCachedCopy { useCachedCopy := true } = true := rfl
    have hanswers := Trackers.resolver_answersAt rules
    obtain ⟨replayed, hreplayed, hitems, hitems'⟩ :=
      Inventory.replay_of_persisted reportsWell_persisting readsBack_persisting rfl hrefresh
        hcached hfolder (hanswers.answersAs hanswers)
    refine ⟨items, replayed, hreplayed, ?_, hitems', Option.some.inj hnames⟩
    show (persisting.refresh persistingBackends ⟨0, 0⟩).2.items = _
    rw [hrefresh]
    exact hitems

end SeedCleanup

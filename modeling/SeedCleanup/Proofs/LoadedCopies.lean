import SeedCleanup.Proofs.Replay

/-!
# Loading saved copies

A fleet that loads data takes over what its reader makes of them, or refuses them and stays as it
is (`Manager.LoadsAs`). Libraries then list the movies before the series, each kind in the order of
the data, whatever that order was, and clients list theirs by name. What is saved afterwards is
listed in the same way wherever it is loaded (`loaded_copies_are_listed_and_saved`): the groups of a
fleet are not saved with it, but its lists do not depend on them.
-/

namespace SeedCleanup

/-! ## Data and their readers -/

/-- What readers make of data: `read` of a text, and `other` of what is no text. -/
def readData {α : Type} (read : String → Option α) (other : ByteArray → Option α)
    (data : ByteArray) : Option α :=
  match String.fromUTF8? data with
  | some text => read text
  | none => other data

theorem fromUTF8?_toUTF8 (text : String) : String.fromUTF8? text.toUTF8 = some text := by
  rw [String.fromUTF8?, String.toUTF8_eq_toByteArray, dif_pos text.isValidUTF8]
  rfl

@[simp] theorem readData_toUTF8 {α : Type} (read : String → Option α)
    (other : ByteArray → Option α) (text : String) :
    readData read other text.toUTF8 = read text := by
  rw [readData, fromUTF8?_toUTF8]

/-! ## Loading -/

/-- How a manager in some state loads data that are read as `read`: it refuses what cannot be read,
and lists what can be read as `listed` says. If its written form is read back, then what the manager
saves is listed in the same way wherever it is loaded. -/
structure Manager.LoadsAs {μ β δ α : Type} (m : Manager μ β δ)
    (load : ByteArray → μ → Except SourceError Unit × μ) (listed : α → List β)
    (ReadsBack : α → Prop) (data : ByteArray) (read : Option α) (s : μ) : Prop where
  text : ∀ text : String, text.toUTF8 = data → load data s = m.load text s
  refused : read = none → ∃ message, load data s = (.error (.serialization message), s)
  taken : ∀ a, read = some a → ∃ s', load data s = (.ok (), s') ∧
    m.contents.run s' = (.ok (listed a), s') ∧
      (ReadsBack a → ∃ saved, m.save s' = (.ok saved, s') ∧
        ∀ s₁, ∃ s₂, load saved.toUTF8 s₁ = (.ok (), s₂) ∧ m.contents.run s₂ = (.ok (listed a), s₂))

namespace Fleet

variable {κ σ β δ : Type} [Ord κ] {rules : FleetRules κ β δ} {source : Source σ β δ}

/-- Replace what was reported by what was read, if anything could be read. -/
def takeOver (read : Option (SortedTable κ (List β))) (f : Fleet κ σ β) :
    Except SourceError Unit × Fleet κ σ β :=
  match read with
  | none => (.error (.serialization "the snapshot cannot be read"), f)
  | some entries => (.ok (), { f with entries := some entries })

theorem load_eq_takeOver (text : String) (f : Fleet κ σ β) :
    load rules text f = f.takeOver (rules.decode text) := by
  unfold load takeOver
  cases rules.decode text <;> rfl

variable [BEq κ]

/-- A fleet that takes over what was read saves what it took over. -/
theorem save_of_entries {t : SortedTable κ (List β)} {f : Fleet κ σ β}
    (h : f.entries = some t) :
    (manager rules source).save f = (.ok (rules.encode t), f) := by
  show (Except.ok (rules.encode (f.entries.getD .empty)), f) = _
  rw [h, Option.getD_some]

theorem loadsAs_takeOver {α : Type} {read : ByteArray → Option α}
    {table : α → SortedTable κ (List β)} {listed : α → List β} {ReadsBack : α → Prop}
    (htext : ∀ text : String, rules.decode text = (read text.toUTF8).map table)
    (hlisted : ∀ a, (table a).values.flatten = listed a)
    (hkeeps : ∀ a, ReadsBack a → Keeps rules (table a)) (data : ByteArray) (f : Fleet κ σ β) :
    (manager rules source).LoadsAs (fun data f => f.takeOver ((read data).map table)) listed
      ReadsBack data (read data) f where
  text text hdata := by
    rw [← hdata, ← htext, ← load_eq_takeOver]
    rfl
  refused hnone := by
    rw [hnone]
    exact ⟨_, rfl⟩
  taken a hsome := by
    refine ⟨{ f with entries := some (table a) }, by rw [hsome]; rfl, ?_, fun hback => ?_⟩
    · rw [← hlisted a]
      exact contents_run_of_entries rfl
    · obtain ⟨t', hdecode, hlists⟩ := hkeeps a hback
      refine ⟨_, save_of_entries rfl, fun g => ⟨{ g with entries := some t' }, ?_, ?_⟩⟩
      · rw [← htext, hdecode]
        rfl
      · rw [← hlisted a, ← hlists]
        exact contents_run_of_entries rfl

end Fleet

/-! ## Libraries and clients -/

namespace Libraries

variable {σ : Type}

/-- Load data that hold titles. Data that are no text are left to a reader of their own. -/
def loadData (other : ByteArray → Option (List MediaEntry)) (data : ByteArray) (f : Libraries σ) :
    Except SourceError Unit × Libraries σ :=
  f.takeOver ((readData MediaEntry.ofSaved? other data).map byKind)

/-- The titles of a list, movies first, and each kind in the order of the list. -/
def moviesFirst (entries : List MediaEntry) : List MediaEntry :=
  (entries.filter fun e => e.title.kind == .movie) ++
    entries.filter fun e => e.title.kind == .series

/-- Titles that are sorted by kind are listed kind by kind. -/
theorem flatten_values_byKind (entries : List MediaEntry) :
    (byKind entries).values.flatten = moviesFirst entries := by
  let sorted : SortedTable MediaKind (List MediaEntry) :=
    ⟨[(.movie, entries.filter fun e => e.title.kind == .movie),
      (.series, entries.filter fun e => e.title.kind == .series)], List.pairwise_pair.2 rfl⟩
  have hsame : (byKind entries).values.flatten = sorted.values.flatten :=
    SortedTable.flatten_values_eq fun kind => by
      rw [getD_get?_byKind]
      cases kind <;> rfl
  rw [hsame]
  exact congrArg _ (List.append_nil _)

theorem eq_filter_of_mem_byKind {entries l : List MediaEntry} {kind : MediaKind}
    (h : (kind, l) ∈ (byKind entries).entries) :
    l = entries.filter fun e => e.title.kind == kind := by
  rw [← getD_get?_byKind, SortedTable.mem_entries_iff.1 h, Option.getD_some]

theorem keeps_byKind {entries : List MediaEntry} (h : ∀ e ∈ entries, e.title.added.ReadsBack) :
    Fleet.Keeps rules (byKind entries) := by
  refine keeps_of_own (fun kind l hmem e he => ?_) fun kind l hmem e he => ?_
  · rw [eq_filter_of_mem_byKind hmem] at he
    exact eq_of_beq (List.mem_filter.1 he).2
  · rw [eq_filter_of_mem_byKind hmem] at he
    exact h e (List.mem_filter.1 he).1

end Libraries

namespace Clients

variable {τ : Type} (other : ByteArray → Option (SortedTable String (List Torrent)))

/-- Load data that hold the torrents of each client. Data that are no text are left to a reader of
their own. -/
def loadData (data : ByteArray) (f : Clients τ) : Except SourceError Unit × Clients τ :=
  f.takeOver (readData Torrent.ofSavedByClient? other data)

theorem loadData_eq : loadData other
    = fun data (f : Clients τ) =>
      f.takeOver ((readData Torrent.ofSavedByClient? other data).map id) := by
  simp only [Option.map_id, id_eq]
  rfl

end Clients

/-- Data that cannot be read are refused by libraries and by clients, which then are as they were.
Otherwise libraries list the titles of the data with the movies first, and clients list the torrents
of the data by the names of the clients; and what both save then is listed in the same way again,
wherever it is loaded. -/
theorem loaded_copies_are_listed_and_saved :
    (∀ {σ : Type} (library : MediaSource σ) (other : ByteArray → Option (List MediaEntry))
        (data : ByteArray) (f : Libraries σ),
      (Libraries.manager library).LoadsAs (Libraries.loadData other) Libraries.moviesFirst
        (fun entries => ∀ e ∈ entries, e.title.added.ReadsBack) data
        (readData MediaEntry.ofSaved? other data) f) ∧
    ∀ {τ : Type} (client : TorrentSource τ)
        (other : ByteArray → Option (SortedTable String (List Torrent))) (data : ByteArray)
        (f : Clients τ),
      (Clients.manager client).LoadsAs (Clients.loadData other) (fun lists => lists.values.flatten)
        (fun lists => ∀ name l, (name, l) ∈ lists.entries → ∀ t ∈ l, t.ReadsBack) data
        (readData Torrent.ofSavedByClient? other data) f := by
  refine ⟨fun library other data f => ?_, fun client other data f => ?_⟩
  · refine Fleet.loadsAs_takeOver (fun text => ?_) Libraries.flatten_values_byKind
      (fun entries h => Libraries.keeps_byKind h) data f
    rw [readData_toUTF8]
    rfl
  · rw [Clients.loadData_eq]
    refine Fleet.loadsAs_takeOver (fun text => ?_) (fun lists => rfl)
      (fun lists h => Clients.keeps_of_readsBack h) data f
    rw [readData_toUTF8, Option.map_id]
    rfl

namespace Sample

/-- Torrents under names that are not those of their clients. -/
def filed : SortedTable String (List Torrent) :=
  .ofList [("zeta", [torrent]), ("empty", []), ("alpha", [delugeTorrent, torrent])]

theorem readsBack_filed {name : String} {l : List Torrent} (h : (name, l) ∈ filed.entries) :
    ∀ t ∈ l, t.ReadsBack := by
  have hentries : filed.entries
      = [("alpha", [delugeTorrent, torrent]), ("empty", []), ("zeta", [torrent])] := rfl
  rw [hentries] at h
  simp only [List.mem_cons, Prod.mk.injEq, List.not_mem_nil, or_false] at h
  intro t ht
  obtain ⟨-, rfl⟩ | ⟨-, rfl⟩ | ⟨-, rfl⟩ := h
  · obtain rfl | ht := List.mem_cons.1 ht
    · exact delugeTorrent_readsBack
    · exact List.mem_singleton.1 ht ▸ torrent_readsBack
  · cases ht
  · exact List.mem_singleton.1 ht ▸ torrent_readsBack

end Sample

open Sample in
/-- A series that was saved before a movie is listed after it, and torrents that were saved under
other names are listed by these names. -/
theorem saved_samples_are_listed :
    (∃ s s', (Libraries.loadData (fun _ => none)
        (MediaEntry.saved [quotedSeries, movie, quotedSeries]).toUTF8 persisting.media
          = (.ok (), s)) ∧
      (Libraries.manager MemorySource.source).contents.run s
        = (.ok [movie, quotedSeries, quotedSeries], s) ∧
      ∃ saved, (Libraries.manager MemorySource.source).save s = (.ok saved, s) ∧
        Libraries.loadData (fun _ => none) saved.toUTF8 persisting.media = (.ok (), s') ∧
        (Libraries.manager MemorySource.source).contents.run s'
          = (.ok [movie, quotedSeries, quotedSeries], s')) ∧
    ∃ s s', (Clients.loadData (fun _ => none) (Torrent.savedByClient filed).toUTF8
        persisting.torrents = (.ok (), s)) ∧
      (Clients.manager MemorySource.source).contents.run s
        = (.ok [delugeTorrent, torrent, torrent], s) ∧
      ∃ saved, (Clients.manager MemorySource.source).save s = (.ok saved, s) ∧
        Clients.loadData (fun _ => none) saved.toUTF8 persisting.torrents = (.ok (), s') ∧
        (Clients.manager MemorySource.source).contents.run s'
          = (.ok [delugeTorrent, torrent, torrent], s') := by
  obtain ⟨hlibraries, hclients⟩ := loaded_copies_are_listed_and_saved
  refine ⟨?_, ?_⟩
  · have htimes : ∀ e ∈ [quotedSeries, movie, quotedSeries], e.title.added.ReadsBack := by
      decide +kernel
    obtain ⟨s, hload, hlisted, hsaved⟩ := (hlibraries MemorySource.source (fun _ => none)
      (MediaEntry.saved [quotedSeries, movie, quotedSeries]).toUTF8 persisting.media).taken _
      ((readData_toUTF8 _ _ _).trans (MediaEntry.ofSaved?_saved htimes))
    obtain ⟨saved, hsave, hagain⟩ := hsaved htimes
    obtain ⟨s', hreload, hrelisted⟩ := hagain persisting.media
    exact ⟨s, s', hload, hlisted, saved, hsave, hreload, hrelisted⟩
  · obtain ⟨s, hload, hlisted, hsaved⟩ := (hclients MemorySource.source (fun _ => none)
      (Torrent.savedByClient filed).toUTF8 persisting.torrents).taken _
      ((readData_toUTF8 _ _ _).trans
        (Torrent.ofSavedByClient?_savedByClient fun _ _ => readsBack_filed))
    obtain ⟨saved, hsave, hagain⟩ := hsaved fun _ _ => readsBack_filed
    obtain ⟨s', hreload, hrelisted⟩ := hagain persisting.torrents
    exact ⟨s, s', hload, hlisted, saved, hsave, hreload, hrelisted⟩

end SeedCleanup

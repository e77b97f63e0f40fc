import SeedCleanup.Proofs.DocumentTheorems
import SeedCleanup.Proofs.LibraryDeletion
import SeedCleanup.Proofs.LinkRules

/-!
# Names of files

The last name in a path is read in two ways. A library's files are named by the last component of
their paths (`Arr.fileName`), the files of torrents by what their paths end in (`Text.baseName`).
Both readings give the last element that is not empty, unless it is a dot or two. Then they agree
only on a path that is nothing but these dots (`Arr.fileName_eq_baseName_iff`). So a file that a
library tells is linked by its name, whatever directories its path goes through
(`told_files_linked_by_name`).
-/

namespace SeedCleanup

open SeedCleanup.Text

namespace Text

/-- The elements of a path that are not empty. -/
def names (path : List Char) : List (List Char) := (path.splitOn '/').filter (· ≠ [])

/-- The last element of a path that is not empty. -/
def lastName? (path : String) : Option (List Char) := (names path.toList).getLast?

/-- A name that stands for a directory or for the one above it. -/
def IsDots (name : List Char) : Prop := name = ['.'] ∨ name = ['.', '.']

/-! ## The names in a path -/

theorem names_append_cons (s t : List Char) : names (s ++ '/' :: t) = names s ++ names t := by
  rw [names, names, names, ← List.filter_append]
  exact congrArg _ (List.splitOnP_append_cons _ _ (beq_self_eq_true _))

theorem names_of_notMem {name : List Char} (h : '/' ∉ name) :
    names name = [name].filter (· ≠ []) := by
  rw [names, ← splitOnChar_eq_splitOn, splitOnChar_of_notMem h]

/-- Slashes hold no names. -/
theorem names_append_slashes (s : List Char) {slashes : List Char} (h : ∀ c ∈ slashes, c = '/') :
    names (s ++ slashes) = names s := by
  induction slashes using List.reverseRecOn with
  | nil => rw [List.append_nil]
  | append_singleton rest c ih =>
    obtain ⟨hrest, hc⟩ := List.forall_mem_append.1 h
    obtain rfl := List.forall_mem_singleton.1 hc
    rw [← List.append_assoc, names_append_cons, ih hrest, names_of_notMem List.not_mem_nil]
    exact List.append_nil _

/-- The last element of a path is the last of its names, unless it is empty. -/
theorem IsLastElement.getLast?_names {path name : List Char} (h : IsLastElement path name)
    (hne : name ≠ []) : (names path).getLast? = some name := by
  cases h with
  | whole h => simp [names_of_notMem h, hne]
  | below dir h => simp [names_append_cons, names_of_notMem h, hne]

/-- The base name of a path is the last of its names; without any the path is its own base name. -/
theorem baseName_eq_elim (path : String) :
    baseName path = (lastName? path).elim path String.ofList := by
  obtain ⟨slashes, hpath, hslashes⟩ := exists_eq_dropEndWhile_append (· == '/') path.toList
  have hnames : names path.toList = names (dropEndWhile (· == '/') path.toList) := by
    conv_lhs => rw [hpath]
    exact names_append_slashes _ fun c hc => beq_iff_eq.1 (hslashes c hc)
  unfold baseName lastName?
  rw [hnames]
  simp only
  split
  · -- nothing but slashes, so that there are no names
    rename_i hempty
    rw [List.isEmpty_iff.1 hempty]
    rfl
  · rename_i hempty
    have hlast : IsLastElement (dropEndWhile (· == '/') path.toList)
        (lastElement (dropEndWhile (· == '/') path.toList)) := isLastElement_iff.2 rfl
    rw [hlast.getLast?_names, Option.elim_some]
    refine hlast.ne_nil (mt List.isEmpty_iff.2 hempty) fun hslash => ?_
    cases eq_false_of_getLast?_dropEndWhile hslash

/-! ## Components -/

/-- The components of a path are its names, except that behind the first element no dot counts. -/
theorem exists_components_eq (path : String) : ∃ start rest,
    names path.toList = start ++ rest ∧ components path = start ++ rest.filter (· ≠ ['.']) := by
  rw [components, pathElements, splitOnChar_eq_splitOn, names]
  -- a dot is kept as the first element only
  cases path.toList.splitOn '/' with
  | nil => exact ⟨[], [], rfl, rfl⟩
  | cons first rest =>
    have hrest : rest.filter (fun e => !e.isEmpty && e != ['.'])
        = (rest.filter (· ≠ [])).filter (· ≠ ['.']) := by
      rw [List.filter_filter]
      refine List.filter_congr fun e _ => Bool.eq_iff_iff.2 ?_
      simp [and_comm]
    refine ⟨[first].filter (· ≠ []), rest.filter (· ≠ []), List.filter_append [first] rest, ?_⟩
    show _ ++ _ = _
    rw [hrest]
    cases first <;> rfl

theorem components_eq_nil {path : String} (h : lastName? path = none) : components path = [] := by
  obtain ⟨start, rest, hnames, hcomponents⟩ := exists_components_eq path
  rw [lastName?, List.getLast?_eq_none_iff, hnames, List.append_eq_nil_iff] at h
  rw [hcomponents, h.1, h.2]
  rfl

/-- The last name is the last component unless it is a dot. -/
theorem getLast?_components {path : String} {name : List Char} (h : lastName? path = some name)
    (hdot : name ≠ ['.']) : (components path).getLast? = some name := by
  obtain ⟨start, rest, hnames, hcomponents⟩ := exists_components_eq path
  rw [lastName?, hnames] at h
  rw [hcomponents]
  -- the last name stands behind the first element, where only dots are dropped, or is that element
  cases rest using List.reverseRecOn with
  | nil => exact h
  | append_singleton rest last =>
    rw [← List.append_assoc, List.getLast?_concat] at h
    obtain rfl := Option.some.inj h
    have hkept : [last].filter (· ≠ ['.']) = [last] :=
      List.filter_cons_of_pos (decide_eq_true hdot)
    rw [List.filter_append, hkept, ← List.append_assoc, List.getLast?_concat]

theorem not_isDots_of_lastComponent? {path : String} {name : String}
    (h : lastComponent? path = some name) : ¬IsDots name.toList := by
  unfold lastComponent? at h
  split at h
  · cases h
  · split at h
    · cases h
    · rename_i hdots
      obtain rfl := Option.some.inj h
      simpa [IsDots] using hdots

end Text

namespace Arr

open SeedCleanup.Text

theorem fileName_of_lastName? {path : String} {name : List Char} (h : lastName? path = some name)
    (hdots : ¬IsDots name) : fileName path = String.ofList name := by
  rw [IsDots, not_or] at hdots
  simp [fileName, lastComponent?, getLast?_components h hdots.1, hdots]

theorem fileName_eq_self {path : String} (h : lastName? path = none) : fileName path = path := by
  rw [fileName, lastComponent?, components_eq_nil h]
  rfl

/-- A file is called by dots only if they are its whole path. -/
theorem fileName_eq_iff_of_isDots {path : String} {name : List Char} (hdots : IsDots name) :
    fileName path = String.ofList name ↔ path = String.ofList name := by
  constructor
  · intro h
    rw [fileName] at h
    cases hlast : lastComponent? path with
    | none => rwa [hlast] at h
    | some last =>
      rw [hlast, Option.getD_some] at h
      refine absurd hdots ?_
      rw [← String.toList_ofList (l := name), ← h]
      exact not_isDots_of_lastComponent? hlast
  · rintro rfl
    obtain rfl | rfl := hdots <;> decide

/-- Both readings of a path give one name, except that the path ends in dots and is more than these
dots. -/
theorem fileName_eq_baseName_iff (path : String) : fileName path = baseName path ↔
    ∀ name, lastName? path = some name → IsDots name → path = String.ofList name := by
  rw [baseName_eq_elim]
  cases h : lastName? path with
  | none => exact iff_of_true (fileName_eq_self h) nofun
  | some name =>
    simp only [Option.elim_some, Option.some.injEq, forall_eq']
    by_cases hdots : IsDots name
    · rw [fileName_eq_iff_of_isDots hdots]
      exact (imp_iff_right hdots).symm
    · exact iff_of_true (fileName_of_lastName? h hdots) fun hdots' => absurd hdots' hdots

example : fileName "a/b/." = "b" ∧ baseName "a/b/." = "." := by decide +kernel

end Arr

/-! ## Files that a library tells -/

/-- A file under its name instead of its whole path. -/
def MediaFile.named (f : MediaFile) : MediaFile := { f with path := Arr.fileName f.path }

namespace ArrServer

open Arr

/-- In a log a request is answered with a list that holds a value. -/
def ListedIn {α : Type} (log : List Exchange) (decode : Json → Option α) (request : Outgoing)
    (v : α) : Prop :=
  ∃ answer l, ⟨request, answer⟩ ∈ log ∧ ReadAs (listOf decode) answer l ∧ v ∈ l

/-- The request that gets the movies. -/
def getMovies (a : ArrServer) : Outgoing := a.getting "/movie"

/-- The request that gets the files of a series. -/
def getEpisodes (a : ArrServer) (series : Int64) : Outgoing :=
  a.getting "/episodefile" [("seriesId", toString series.toInt)]

/-- In a log a library tells a file, with the whole path that it knows of. -/
inductive Tells (a : ArrServer) (log : List Exchange) : MediaFile → Prop
  | movie {m : Movie} {file : MovieFile} (hkind : a.kind = .movie)
      (hlisted : ListedIn log Movie.ofJson? a.getMovies m) (hfile : m.file = some file)
      (hhas : m.hasFile = true) : Tells a log ⟨file.id, -1, file.path, sizeOf m.sizeOnDisk⟩
  | episode {series : Int64} {file : EpisodeFile} (hkind : a.kind = .series)
      (hlisted : ListedIn log EpisodeFile.ofJson? (a.getEpisodes series) file) :
      Tells a log ⟨file.id, file.season, file.relativePath, sizeOf file.size⟩

section

variable {α : Type} {decode : Json → Option α} {log log' : List Exchange} {v : α}
  {request request' : Outgoing}

theorem listedIn_append_iff : ListedIn (log ++ log') decode request v ↔
    ListedIn log decode request v ∨ ListedIn log' decode request v := by
  simp only [ListedIn, List.mem_append, or_and_right, exists_or]

/-- An answer lists what it is read as. -/
theorem listedIn_singleton_iff {answer : Except TransportError Reply} {l : List α}
    (h : ReadAs (listOf decode) answer l) :
    ListedIn [⟨request', answer⟩] decode request v ↔ request = request' ∧ v ∈ l := by
  constructor
  · rintro ⟨answer', l', hmem, hread, hv⟩
    obtain ⟨rfl, rfl⟩ := Exchange.mk.inj (List.mem_singleton.1 hmem)
    exact ⟨rfl, h.unique hread ▸ hv⟩
  · rintro ⟨rfl, hv⟩
    exact ⟨answer, l, List.mem_cons_self, h, hv⟩

end

/-! ## Files of the titles that a library lists -/

variable {a : ArrServer} {log : List Exchange} {s s' : Unit} {entries : List MediaEntry}
  {f : MediaFile}

/-- A movie with a file is an entry with this file under its name. -/
theorem mem_files_entry?_iff {base : String} {m : Movie} :
    (∃ e, m.entry? base = some e ∧ f ∈ e.files) ↔ ∃ file, m.file = some file ∧ m.hasFile = true ∧
      f = MediaFile.named ⟨file.id, -1, file.path, sizeOf m.sizeOnDisk⟩ := by
  unfold Movie.entry?
  split
  · rename_i file hfile
    split
    · rename_i hhas
      simp [hfile, hhas, MediaFile.named]
    · rename_i hhas
      simp [hhas]
  · rename_i hnone
    simp [hnone]

theorem titles_of_movie (hkind : a.kind = .movie) : a.titles = a.movies := by
  rw [titles, hkind]

/-- Movies are got by one request, and listed if its answer is a list of movies. -/
theorem of_movies {result : Except SourceError (List MediaEntry)}
    (h : a.movies.Course s log result s') :
    ∃ answer, log = [⟨a.getMovies, answer⟩] ∧ ∀ entries, result = .ok entries ↔
      ∃ movies, ReadAs (listOf Movie.ofJson?) answer movies ∧
        entries = movies.filterMap (Movie.entry? a.base) := by
  unfold movies at h
  obtain ⟨e, rfl, hfetch⟩ | ⟨movies, s₁, before, after, rfl, hfetch, hdone⟩ := h.of_bind
  · obtain ⟨answer, rfl, hresult⟩ := of_fetch hfetch
    refine ⟨answer, rfl, fun entries => iff_of_false nofun ?_⟩
    rintro ⟨movies, hread, -⟩
    cases (hresult movies).2 hread
  · obtain ⟨answer, rfl, hresult⟩ := of_fetch hfetch
    obtain ⟨rfl, rfl, -⟩ := hdone.of_pure
    have hread := (hresult movies).1 rfl
    refine ⟨answer, rfl, fun entries => ⟨fun heq => ?_, ?_⟩⟩
    · exact ⟨movies, hread, (Except.ok.inj heq).symm⟩
    · rintro ⟨movies', hread', rfl⟩
      rw [hread.unique hread']

theorem mem_files_movies_iff (hkind : a.kind = .movie)
    (h : a.movies.Course s log (.ok entries) s') :
    (∃ e ∈ entries, f ∈ e.files) ↔ ∃ g, a.Tells log g ∧ f = g.named := by
  obtain ⟨answer, rfl, hresult⟩ := of_movies h
  obtain ⟨movies, hread, rfl⟩ := (hresult entries).1 rfl
  have hlisted (m : Movie) :
      ListedIn [⟨a.getMovies, answer⟩] Movie.ofJson? a.getMovies m ↔ m ∈ movies :=
    (listedIn_singleton_iff hread).trans (and_iff_right rfl)
  constructor
  · rintro ⟨e, he, hf⟩
    obtain ⟨m, hm, hentry⟩ := List.mem_filterMap.1 he
    obtain ⟨file, hfile, hhas, rfl⟩ := mem_files_entry?_iff.1 ⟨e, hentry, hf⟩
    exact ⟨_, .movie hkind ((hlisted m).2 hm) hfile hhas, rfl⟩
  · rintro ⟨g, htells, rfl⟩
    cases htells with
    | movie _ hm hfile hhas =>
      obtain ⟨e, hentry, hf⟩ := mem_files_entry?_iff.2 ⟨_, hfile, hhas, rfl⟩
      exact ⟨e, List.mem_filterMap.2 ⟨_, (hlisted _).1 hm, hentry⟩, hf⟩
    | episode hseries _ => cases hkind.symm.trans hseries

/-- The entries of series hold the files that are listed for one of them. -/
theorem mem_files_seriesEntries_iff {series : List Series}
    (h : (a.seriesEntries series).Course s log (.ok entries) s') :
    (∃ e ∈ entries, f ∈ e.files) ↔ ∃ id file,
      ListedIn log EpisodeFile.ofJson? (a.getEpisodes id) file ∧ f = file.toMediaFile := by
  induction series generalizing s log entries s' with
  | nil =>
    obtain ⟨rfl, hentries, -⟩ := h.of_pure
    obtain rfl := Except.ok.inj hentries
    simp [ListedIn]
  | cons first rest ih =>
    unfold seriesEntries at h
    split at h
    · -- a series without files is not asked for
      exact ih h
    obtain ⟨files, s₁, before, after, rfl, hfetch, hrest⟩ := h.of_bind_ok
    obtain ⟨answer, rfl, hresult⟩ := of_fetch hfetch
    have hread := (hresult files).1 rfl
    obtain ⟨others, s₂, after, last, rfl, hothers, hdone⟩ := hrest.of_bind_ok
    obtain ⟨rfl, hentries, -⟩ := hdone.of_pure
    obtain rfl := Except.ok.inj hentries
    have hfirst : f ∈ (first.entry a.base files).files ↔ ∃ id file,
        ListedIn [⟨a.getEpisodes first.id, answer⟩] EpisodeFile.ofJson? (a.getEpisodes id) file ∧
          f = file.toMediaFile := by
      simp only [listedIn_singleton_iff hread, Series.entry, List.mem_map]
      constructor
      · rintro ⟨file, hfile, rfl⟩
        exact ⟨first.id, file, ⟨rfl, hfile⟩, rfl⟩
      · rintro ⟨id, file, ⟨-, hfile⟩, rfl⟩
        exact ⟨file, hfile, rfl⟩
    rw [List.append_nil, List.exists_mem_cons_iff, hfirst, ih hothers]
    simp only [listedIn_append_iff, or_and_right, exists_or]
    rfl

/-- The titles of a library hold the files that it tells, each under its name. -/
theorem mem_files_titles_iff (h : a.titles.Course s log (.ok entries) s') :
    (∃ e ∈ entries, f ∈ e.files) ↔ ∃ g, a.Tells log g ∧ f = g.named := by
  cases hkind : a.kind with
  | movie =>
    rw [titles_of_movie hkind] at h
    exact mem_files_movies_iff hkind h
  | series =>
    simp only [titles, hkind] at h
    obtain ⟨series, s₁, before, after, rfl, hfetch, hentries⟩ := h.of_bind_ok
    obtain ⟨answer, rfl, hresult⟩ := of_fetch hfetch
    -- the list of series lists no files
    have hother (id : Int64) (file : EpisodeFile) : ¬ListedIn
        [⟨a.getting "/series", answer⟩] EpisodeFile.ofJson? (a.getEpisodes id) file := by
      rintro ⟨answer', l, hmem, -⟩
      obtain ⟨hrequest, -⟩ := Exchange.mk.inj (List.mem_singleton.1 hmem)
      cases congrArg Outgoing.query hrequest
    rw [mem_files_seriesEntries_iff hentries]
    constructor
    · rintro ⟨id, file, hlisted, rfl⟩
      exact ⟨_, .episode hkind (listedIn_append_iff.2 (.inr hlisted)), rfl⟩
    · rintro ⟨g, htells, rfl⟩
      cases htells with
      | movie hmovie _ _ _ => cases hkind.symm.trans hmovie
      | @episode id file _ hlisted =>
        exact ⟨id, file, (listedIn_append_iff.1 hlisted).resolve_left (hother id file), rfl⟩

end ArrServer

/-! ## Links by name -/

/-- Two paths have one last name, and it is no dots. -/
def Text.SameName (p q : String) : Prop :=
  ∃ name, lastName? p = some name ∧ lastName? q = some name ∧ ¬IsDots name

theorem Text.SameName.baseName_eq {p q : String} (h : SameName p q) :
    baseName q = Arr.fileName p := by
  obtain ⟨name, hp, hq, hdots⟩ := h
  rw [Arr.fileName_of_lastName? hp hdots, baseName_eq_elim, hq]
  rfl

/-- A file is linked no later than to a torrent that explains it. -/
theorem MediaFile.exists_torrent_link {f : MediaFile} {t : Torrent} (h : t.Links f)
    (before after : List Torrent) :
    ∃ t' ∈ before ++ [t], (f.link (before ++ t :: after)).torrent = some t' := by
  obtain ⟨t', hlink⟩ : ∃ t', (f.link (before ++ [t])).torrent = some t' := by
    refine Option.ne_none_iff_exists'.1 fun hnone => ?_
    exact torrent_link_eq_none_iff.1 hnone t (List.mem_append_right _ List.mem_cons_self) h
  refine ⟨t', List.mem_of_find?_eq_some hlink, ?_⟩
  rw [List.append_cons]
  exact torrent_link_append hlink

/-- A file occurs in linked titles, and wherever it occurs it is linked to one of some torrents. -/
structure LinkedWithin (titles : List LinkedTitle) (f : MediaFile) (torrents : List Torrent) :
    Prop where
  occurs : ∃ linked ∈ titles, ∃ g ∈ linked.files, g.file = f
  torrent : ∀ linked ∈ titles, ∀ g ∈ linked.files, g.file = f → ∃ t ∈ torrents, g.torrent = some t

theorem linkedWithin_linkMedia {f : MediaFile} {t : Torrent} (h : t.Links f)
    {media : List MediaEntry} (hmem : ∃ e ∈ media, f ∈ e.files) (before after : List Torrent) :
    LinkedWithin (linkMedia media (before ++ t :: after)) f (before ++ [t]) where
  occurs := by
    obtain ⟨e, he, hf⟩ := hmem
    refine ⟨_, mem_linkMedia.2 ⟨e, he, List.ne_nil_of_mem hf, rfl⟩, ?_⟩
    exact ⟨_, List.mem_map_of_mem hf, rfl⟩
  torrent := by
    rintro linked hlinked g hg rfl
    obtain ⟨e, -, -, rfl⟩ := mem_linkMedia.1 hlinked
    obtain ⟨f, -, rfl⟩ := List.mem_map.1 hg
    exact MediaFile.exists_torrent_link h before after

/-- The two readings of a path agree unless it ends in dots and is more than these dots. Whatever a
server answers, the files of the titles that a library lists are those that the server told, each
under its name. In every list of torrents, such a file is linked to any torrent that has a file of
the same size with the same last name, or to one before it. -/
theorem told_files_linked_by_name :
    (∀ path, Arr.fileName path = baseName path ↔
      ∀ name, lastName? path = some name → IsDots name → path = String.ofList name) ∧
    ∀ (a : ArrServer) (ω : Type) (serve : Serving ω) (w : ω) (entries : List MediaEntry),
      (a.titles.lead serve () w).1 = .ok entries →
      let log := Dialog.exchanges serve (a.titles.run.run ()) w
      (∀ f, (∃ e ∈ entries, f ∈ e.files) ↔ ∃ g, a.Tells log g ∧ f = g.named) ∧
      ∀ g, a.Tells log g → ∀ media, entries ⊆ media → ∀ before t after, ∀ file ∈ t.files,
        file.size = g.size → SameName g.path file.path →
          LinkedWithin (linkMedia media (before ++ t :: after)) g.named (before ++ [t]) := by
  refine ⟨Arr.fileName_eq_baseName_iff, ?_⟩
  intro a ω serve w entries hentries log
  have hcourse : a.titles.Course () log (.ok entries) _ :=
    hentries ▸ Session.course_lead serve a.titles () w
  have hfiles (f : MediaFile) := ArrServer.mem_files_titles_iff (f := f) hcourse
  refine ⟨hfiles, fun g hg media hmedia before t after file hfile hsize hname => ?_⟩
  have hlinks : t.Links g.named := .byFile file hfile hsize (.inr hname.baseName_eq)
  obtain ⟨e, he, hf⟩ := (hfiles g.named).2 ⟨g, hg, rfl⟩
  exact linkedWithin_linkMedia hlinks ⟨e, hmedia he, hf⟩ before after

namespace Sample

/-- What a library says of a movie whose file is in a folder. -/
def movieDocument : Json :=
  .arr [.obj [("id", .num (.whole 1)), ("title", .str "Alpha"),
    ("added", .str "2024-01-02T03:04:05Z"), ("hasFile", .bool true),
    ("sizeOnDisk", .num (.whole 700)),
    ("movieFile", .obj [("id", .num (.whole 7)), ("relativePath", .str "Alpha//alpha.mkv")])]]

def toldMovie : Arr.Movie :=
  ⟨1, "Alpha", 0, ⟨1704164645, 0⟩, true, 700, some ⟨7, 0, "Alpha//alpha.mkv", none⟩⟩

def toldFile : MediaFile := ⟨7, -1, "Alpha//alpha.mkv", 700⟩

def namedFile : MediaFile := ⟨7, -1, "alpha.mkv", 700⟩

/-- A torrent that has the file in another folder. -/
def moviePack : Torrent :=
  ⟨"qbit", "c", "pack", .ofNat 1, ⟨0, 0⟩, ["tracker.org"], [⟨"pack/./alpha.mkv/", 700⟩]⟩

theorem faithful_movieDocument : movieDocument.Faithful := by
  refine .arr (List.forall_mem_singleton.2 (.obj ?_))
  simp only [List.forall_mem_cons]
  refine ⟨.num (Number.readsBack_whole _), .str _, .str _, .bool _,
    .num (Number.readsBack_whole _), .obj ?_, nofun⟩
  simp only [List.forall_mem_cons]
  exact ⟨.num (Number.readsBack_whole _), .str _, nofun⟩

theorem readAs_movieDocument : ReadAs (ArrServer.listOf Arr.Movie.ofJson?)
    (.ok ⟨200, "/", movieDocument.text⟩) [toldMovie] := by
  refine ⟨_, ⟨_, rfl, by decide, by decide, rfl⟩, ?_⟩
  rw [ArrServer.listOf, Json.parse_text faithful_movieDocument]
  rfl

/-- What is sent to a library for its titles when it answers with a text. -/
def sentForTitles (text : String) : List Exchange :=
  Dialog.exchanges recital (dryLibrary.titles.run.run ()) [text]

/-- A text that is read as movies is asked for once, and gives titles. -/
theorem listing_of_readAs {text : String} {movies : List Arr.Movie}
    (h : ReadAs (ArrServer.listOf Arr.Movie.ofJson?) (.ok ⟨200, "/", text⟩) movies) :
    sentForTitles text = [⟨dryLibrary.getMovies, .ok ⟨200, "/", text⟩⟩] ∧
      ∃ entries, (dryLibrary.titles.lead recital () [text]).1 = .ok entries := by
  rw [sentForTitles, ArrServer.titles_of_movie rfl]
  obtain ⟨answer, hlog, hresult⟩ :=
    ArrServer.of_movies (Session.course_lead recital dryLibrary.movies () [text])
  obtain rfl : answer = .ok ⟨200, "/", text⟩ := Dialog.answer_of_exchanges_eq_cons hlog
  exact ⟨hlog, _, (hresult _).2 ⟨_, h, rfl⟩⟩

theorem tells_toldFile : dryLibrary.Tells (sentForTitles movieDocument.text) toldFile := by
  rw [(listing_of_readAs readAs_movieDocument).1]
  exact .movie rfl ⟨_, _, List.mem_cons_self, readAs_movieDocument, List.mem_cons_self⟩ rfl rfl

end Sample

open Sample in
/-- A movie in one folder is linked to the pack that has it in another one. -/
theorem movie_linked_to_pack :
    ∃ entries, (dryLibrary.titles.lead recital () [movieDocument.text]).1 = .ok entries ∧
      dryLibrary.Tells (sentForTitles movieDocument.text) toldFile ∧
      SameName toldFile.path "pack/./alpha.mkv/" ∧ (∃ e ∈ entries, namedFile ∈ e.files) ∧
      LinkedWithin (linkMedia entries [root, moviePack, torrent]) namedFile [root, moviePack] := by
  have hnamed : toldFile.named = namedFile := by decide +kernel
  have hname : SameName toldFile.path "pack/./alpha.mkv/" :=
    ⟨"alpha.mkv".toList, by decide +kernel, by decide +kernel, by simp [IsDots]⟩
  obtain ⟨entries, hentries⟩ := (listing_of_readAs readAs_movieDocument).2
  obtain ⟨hfiles, hlinked⟩ :=
    told_files_linked_by_name.2 dryLibrary _ recital [movieDocument.text] entries hentries
  have hwithin := hlinked _ tells_toldFile entries (List.Subset.refl _) [root] moviePack [torrent]
    ⟨"pack/./alpha.mkv/", 700⟩ List.mem_cons_self rfl hname
  refine ⟨entries, hentries, tells_toldFile, hname, ?_, hnamed ▸ hwithin⟩
  exact (hfiles _).2 ⟨_, tells_toldFile, hnamed.symm⟩

end SeedCleanup

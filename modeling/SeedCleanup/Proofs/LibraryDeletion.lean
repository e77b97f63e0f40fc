import SeedCleanup.Media.Arr
import SeedCleanup.Proofs.DialogCourses
import SeedCleanup.Proofs.DryRun
import SeedCleanup.Proofs.FleetRefresh
import SeedCleanup.Proofs.SortedTableTheorems

/-!
# Deletions at a library

A library has files deleted in one request. If their titles are not to be monitored any more, the
owners of the files are looked up before and told after. Whatever is answered, nothing is deleted
when the look-up fails, nobody is told when the deletion fails, and no series keeps another one from
being told (`deletion_keeps_sequence`). Each part of the sequence is a relation of its log with its
result: `ArrServer.LookedUp`, `ArrServer.Deletion`, `ArrServer.MoviesTold`, `ArrServer.SeriesTold`.
-/

namespace SeedCleanup

namespace ArrServer

open Arr

variable {a : ArrServer}

/-! ## Single requests -/

/-- The address of an endpoint of a library. -/
def address (a : ArrServer) (endpoint : String) : String :=
  addressBelow a.settings.url ("/api/v3" ++ endpoint)

/-- The request that gets what an endpoint has for the values of a query. -/
def getting (a : ArrServer) (endpoint : String) (query : List (String × String) := []) :
    Outgoing where
  method := .get
  url := a.address endpoint
  query := query
  apiKey := some a.settings.apiKey
  body := .none

/-- The request that sends a document to an endpoint. -/
def sending (a : ArrServer) (method : HttpMethod) (endpoint : String) (j : Json) : Outgoing where
  method := method
  url := a.address endpoint
  query := []
  apiKey := some a.settings.apiKey
  body := .json j

theorem url_request (method : HttpMethod) (endpoint : String) (query : List (String × String))
    (body : HttpBody) : (a.request method endpoint query body).url = a.address endpoint :=
  String.append_assoc ..

theorem request_get (endpoint : String) (query : List (String × String)) :
    a.request .get endpoint query = a.getting endpoint query := by
  rw [getting, ← url_request .get endpoint query .none]
  rfl

theorem request_json (method : HttpMethod) (endpoint : String) (j : Json) :
    a.request method endpoint [] (.json j) = a.sending method endpoint j := by
  rw [sending, ← url_request method endpoint [] (.json j)]
  rfl

/-- What is not refused is a success. -/
theorem refusal?_eq_none_iff {reply : Reply} :
    a.refusal? reply = none ↔ 200 ≤ reply.status ∧ reply.status < 300 := by
  unfold refusal?
  split
  · exact iff_of_false nofun (by omega)
  · split
    · exact iff_of_false nofun (by omega)
    · split
      · rename_i h
        exact iff_of_true rfl (by simpa [Status.isSuccess] using h)
      · rename_i h
        exact iff_of_false nofun (by simpa [Status.isSuccess] using h)

section

variable {s s' : Unit} {log : List Exchange}

/-- A request is sent once, and refused unless its answer is a success. -/
theorem of_send {r : Outgoing} {result : Except SourceError Reply}
    (h : (a.send r).Course s log result s') :
    ∃ answer, log = [⟨r, answer⟩] ∧ ∀ reply, result = .ok reply ↔
      answer = .ok reply ∧ 200 ≤ reply.status ∧ reply.status < 300 := by
  unfold send at h
  obtain ⟨e, rfl, rfl, -⟩ | ⟨reply, rest, rfl, hrest⟩ := h.of_send_bind
  · exact ⟨.error e, rfl, fun reply => iff_of_false nofun fun ⟨h, _⟩ => nomatch h⟩
  · refine ⟨.ok reply, ?_⟩
    split at hrest
    · rename_i e he
      obtain ⟨rfl, rfl, -⟩ := hrest.of_throw
      refine ⟨rfl, fun reply' => iff_of_false nofun ?_⟩
      rintro ⟨hreply, hsuccess⟩
      obtain rfl := Except.ok.inj hreply
      rw [refusal?_eq_none_iff.2 hsuccess] at he
      exact nomatch he
    · rename_i hnone
      obtain ⟨rfl, rfl, -⟩ := hrest.of_pure
      refine ⟨rfl, fun reply' => ⟨fun hreply => ?_, fun ⟨hreply, _⟩ => ?_⟩⟩
      · obtain rfl := Except.ok.inj hreply
        exact ⟨rfl, refusal?_eq_none_iff.1 hnone⟩
      · rw [Except.ok.inj hreply]

/-- A document is got by one request, and its result is what the answer is read as. -/
theorem of_fetch {α : Type} {decode : String → Option α} {endpoint : String}
    {query : List (String × String)} {result : Except SourceError α}
    (h : (a.fetch decode endpoint query).Course s log result s') :
    ∃ answer, log = [⟨a.getting endpoint query, answer⟩] ∧
      ∀ v, result = .ok v ↔ ReadAs decode answer v := by
  unfold fetch at h
  rw [request_get] at h
  obtain ⟨e, rfl, hsend⟩ | ⟨reply, s₁, before, rest, rfl, hsend, hread⟩ := h.of_bind
  · obtain ⟨answer, rfl, hresult⟩ := of_send hsend
    refine ⟨answer, rfl, fun v => iff_of_false nofun ?_⟩
    intro hread
    obtain ⟨reply, haccepted⟩ := hread.accepted
    exact nomatch (hresult reply).2 haccepted
  · obtain ⟨answer, rfl, hresult⟩ := of_send hsend
    obtain ⟨rfl, hsuccess⟩ := (hresult reply).1 rfl
    refine ⟨.ok reply, ?_⟩
    split at hread
    · rename_i v hv
      obtain ⟨rfl, rfl, -⟩ := hread.of_pure
      exact ⟨rfl, fun v' => by rw [readAs_ok_iff hsuccess, hv, Except.ok.injEq, Option.some.injEq]⟩
    · rename_i hnone
      obtain ⟨rfl, rfl, -⟩ := hread.of_throw
      exact ⟨rfl, fun v' => by simp [readAs_ok_iff hsuccess, hnone]⟩

/-- A request whose answer is not looked at succeeds exactly if it is accepted. -/
theorem of_sent {r : Outgoing} {result : Except SourceError Unit}
    (h : (a.send r >>= fun _ => pure ()).Course s log result s') :
    ∃ answer, log = [⟨r, answer⟩] ∧ (result = .ok () ↔ Accepted answer) := by
  obtain ⟨e, rfl, hsend⟩ | ⟨reply, s₁, before, rest, rfl, hsend, hdone⟩ := h.of_bind
  · obtain ⟨answer, rfl, hresult⟩ := of_send hsend
    refine ⟨answer, rfl, iff_of_false nofun fun ⟨reply, hreply⟩ => ?_⟩
    exact nomatch (hresult reply).2 hreply
  · obtain ⟨answer, rfl, hresult⟩ := of_send hsend
    obtain ⟨rfl, rfl, -⟩ := hdone.of_pure
    exact ⟨answer, rfl, iff_of_true rfl ⟨reply, (hresult reply).1 rfl⟩⟩

end

/-! ## Requests of a deletion -/

/-- Where a library has its files. -/
def filesEndpoint (a : ArrServer) : String :=
  match a.kind with
  | .movie => "/moviefile"
  | .series => "/episodefile"

/-- What a library calls the ids of files. -/
def idsName (a : ArrServer) : String :=
  match a.kind with
  | .movie => "movieFileIds"
  | .series => "episodeFileIds"

/-- The request that looks up files: each id is one value of the query. -/
def lookUp (a : ArrServer) (ids : List Int64) : Outgoing :=
  a.getting a.filesEndpoint (ids.map fun id => (a.idsName, toString id.toInt))

/-- The request that has just these files deleted: the document lists their ids. -/
def bulkDelete (a : ArrServer) (ids : List Int64) : Outgoing :=
  a.sending .delete (a.filesEndpoint ++ "/bulk")
    (.obj [(a.idsName, .arr (ids.map fun id => .ofInt id.toInt))])

/-- The request that tells movies not to be monitored: the document lists their ids. -/
def tellMovies (a : ArrServer) (movies : List Int64) : Outgoing :=
  a.sending .put "/movie/editor"
    (.obj [("movieIds", .arr (movies.map fun id => .ofInt id.toInt)), ("monitored", .bool false)])

/-- Where a library has a series. -/
def seriesEndpoint (series : Int64) : String := "/series/" ++ toString series.toInt

/-- The request that gets a series. -/
def getSeries (a : ArrServer) (series : Int64) : Outgoing := a.getting (seriesEndpoint series)

/-- The request that puts a document in the place of a series. -/
def putSeries (a : ArrServer) (series : Int64) (j : Json) : Outgoing :=
  a.sending .put (seriesEndpoint series) j

section

variable {ids : List Int64}

@[simp] theorem bulkDelete_method : (a.bulkDelete ids).method = .delete := rfl

@[simp] theorem tellMovies_method : (a.tellMovies ids).method = .put := rfl

@[simp] theorem putSeries_method (series : Int64) (j : Json) :
    (a.putSeries series j).method = .put := rfl

theorem lookUp_of_movie (h : a.kind = .movie) :
    a.lookUp ids = a.getting "/moviefile" (idQuery "movieFileIds" ids) := by
  rw [lookUp, filesEndpoint, idsName, h]
  rfl

theorem lookUp_of_series (h : a.kind = .series) :
    a.lookUp ids = a.getting "/episodefile" (idQuery "episodeFileIds" ids) := by
  rw [lookUp, filesEndpoint, idsName, h]
  rfl

theorem bulkDelete_of_movie (h : a.kind = .movie) : a.bulkDelete ids =
    a.request .delete "/moviefile/bulk" [] (.json (.obj [("movieFileIds", idList ids)])) := by
  rw [request_json, bulkDelete, filesEndpoint, idsName, h]
  rfl

theorem bulkDelete_of_series (h : a.kind = .series) : a.bulkDelete ids =
    a.request .delete "/episodefile/bulk" [] (.json (.obj [("episodeFileIds", idList ids)])) := by
  rw [request_json, bulkDelete, filesEndpoint, idsName, h]
  rfl

theorem tellMovies_eq : a.tellMovies ids = a.request .put "/movie/editor" []
    (.json (.obj [("movieIds", idList ids), ("monitored", .bool false)])) :=
  (request_json ..).symm

end

/-! ## The sequence of a deletion -/

/-- The ids of those that own files, each once and ascending. -/
structure Owners {φ : Type} (owner : φ → Int64) (files : List φ) (ids : List Int64) : Prop where
  ascending : ids.Pairwise (· < ·)
  mem_iff : ∀ n, n ∈ ids ↔ ∃ f ∈ files, owner f = n

/-- The movies of some files are told in one request, if there are any. -/
inductive MoviesTold (a : ArrServer) (files : List MovieFile) :
    List Exchange → Except SourceError Unit → Prop
  | nobody (h : files = []) : MoviesTold a files [] (.ok ())
  | told {movies : List Int64} {answer : Except TransportError Reply}
      {result : Except SourceError Unit} (h : files ≠ [])
      (howners : Owners (·.movieId) files movies) (hresult : result = .ok () ↔ Accepted answer) :
      MoviesTold a files [⟨a.tellMovies movies, answer⟩] result

/-- A series is got, and put back without the seasons being monitored if it can be read. -/
inductive SeriesRun (a : ArrServer) (series : Int64) (seasons : List Int32) :
    List Exchange → Except SourceError Unit → Prop
  | unread {answer : Except TransportError Reply} (h : ∀ j, ¬ReadAs kept answer j)
      (e : SourceError) : SeriesRun a series seasons [⟨a.getSeries series, answer⟩] (.error e)
  | put {got answer : Except TransportError Reply} {j : Json} {result : Except SourceError Unit}
      (h : ReadAs kept got j) (hresult : result = .ok () ↔ Accepted answer) :
      SeriesRun a series seasons
        [⟨a.getSeries series, got⟩, ⟨a.putSeries series (unmonitor seasons j), answer⟩] result

/-- Every series has its turn, whatever came of the others. The series that failed are kept with
their failures. -/
inductive SeriesRuns (a : ArrServer) :
    List (Int64 × List Int32) → List Exchange → List (Int64 × SourceError) → Prop
  | nil : SeriesRuns a [] [] []
  | ok {series : Int64} {seasons : List Int32} {rest : List (Int64 × List Int32)}
      {log log' : List Exchange} {failures : List (Int64 × SourceError)}
      (h : SeriesRun a series seasons log (.ok ())) (hrest : SeriesRuns a rest log' failures) :
      SeriesRuns a ((series, seasons) :: rest) (log ++ log') failures
  | failed {series : Int64} {seasons : List Int32} {rest : List (Int64 × List Int32)}
      {log log' : List Exchange} {failures : List (Int64 × SourceError)} {e : SourceError}
      (h : SeriesRun a series seasons log (.error e)) (hrest : SeriesRuns a rest log' failures) :
      SeriesRuns a ((series, seasons) :: rest) (log ++ log') ((series, e) :: failures)

/-- What is told of a series that failed. -/
def seriesText (f : Int64 × SourceError) : String :=
  "could not update monitoring status of series " ++ toString f.1.toInt ++ ": " ++ f.2.message

/-- What comes of series of which some failed: an error that tells of each of these, in order. -/
inductive Joins (failures : List (Int64 × SourceError)) : Except SourceError Unit → Prop
  | ok (h : failures = []) : Joins failures (.ok ())
  | failed {e : SourceError} (h : e.Tells (failures.map seriesText)) : Joins failures (.error e)

/-- The series of some files have their turns in ascending order, each with the seasons of its
files. In this order it is told which of them failed. -/
inductive SeriesTold (a : ArrServer) (files : List EpisodeFile) :
    List Exchange → Except SourceError Unit → Prop
  | told {owners : List (Int64 × List Int32)} {failures : List (Int64 × SourceError)}
      {log : List Exchange} {result : Except SourceError Unit}
      (howners : Owners (·.seriesId) files (owners.map (·.1)))
      (hseasons : ∀ o ∈ owners, ∀ n, n ∈ o.2 ↔ ∃ f ∈ files, f.seriesId = o.1 ∧ f.season = n)
      (hruns : a.SeriesRuns owners log failures)
      (hascending : (failures.map (·.1)).Pairwise (· < ·)) (hjoins : Joins failures result) :
      SeriesTold a files log result

/-- Files are deleted in one request. What follows takes place only if they were. -/
inductive Deletion (a : ArrServer) (ids : List Int64)
    (After : List Exchange → Except SourceError Unit → Prop) :
    List Exchange → Except SourceError Unit → Prop
  | refused {answer : Except TransportError Reply} (h : ¬Accepted answer) (e : SourceError) :
      Deletion a ids After [⟨a.bulkDelete ids, answer⟩] (.error e)
  | deleted {answer : Except TransportError Reply} {log : List Exchange}
      {result : Except SourceError Unit} (h : Accepted answer) (hafter : After log result) :
      Deletion a ids After (⟨a.bulkDelete ids, answer⟩ :: log) result

/-- Files are looked up in one request. They are deleted only if the answer lists them, and what
follows depends on that list. -/
inductive LookedUp {φ : Type} (a : ArrServer) (ids : List Int64) (decode : Json → Option φ)
    (After : List φ → List Exchange → Except SourceError Unit → Prop) :
    List Exchange → Except SourceError Unit → Prop
  | unknown {answer : Except TransportError Reply}
      (h : ∀ files, ¬ReadAs (listOf decode) answer files) (e : SourceError) :
      LookedUp a ids decode After [⟨a.lookUp ids, answer⟩] (.error e)
  | known {answer : Except TransportError Reply} {files : List φ} {log : List Exchange}
      {result : Except SourceError Unit} (h : ReadAs (listOf decode) answer files)
      (hdeletion : Deletion a ids (After files) log result) :
      LookedUp a ids decode After (⟨a.lookUp ids, answer⟩ :: log) result

/-! ## Parts of the sequence -/

section

variable {s s' : Unit} {log : List Exchange} {result : Except SourceError Unit} {ids : List Int64}

theorem seriesRun_of_course {series : Int64} {seasons : List Int32}
    (h : (a.unmonitorSeries series seasons).Course s log result s') :
    SeriesRun a series seasons log result := by
  unfold unmonitorSeries at h
  obtain ⟨e, rfl, hget⟩ | ⟨j, s₁, before, rest, rfl, hget, hput⟩ := h.of_bind
  · obtain ⟨answer, rfl, hresult⟩ := of_fetch hget
    exact .unread (fun j hj => nomatch (hresult j).2 hj) e
  · obtain ⟨got, rfl, hresult⟩ := of_fetch hget
    rw [request_json] at hput
    obtain ⟨answer, rfl, hput'⟩ := of_sent hput
    exact .put ((hresult j).1 rfl) hput'

theorem seriesRuns_of_course {owners : List (Int64 × List Int32)}
    {result : Except SourceError (List SourceError)}
    (h : (a.unmonitorAll owners).Course s log result s') :
    ∃ failures, a.SeriesRuns owners log failures ∧
      result = .ok ((failures.map seriesText).map .api) := by
  induction owners generalizing s log result s' with
  | nil =>
    obtain ⟨rfl, rfl, -⟩ := h.of_pure
    exact ⟨[], .nil, rfl⟩
  | cons o rest ih =>
    obtain ⟨series, seasons⟩ := o
    unfold unmonitorAll at h
    obtain ⟨e, rfl, hrun⟩ | ⟨outcome, s₁, before, _, rfl, hrun, hothers⟩ := h.of_bind
    · obtain ⟨_, herror, -⟩ := hrun.of_outcome
      exact nomatch herror
    obtain ⟨_, houtcome, hcourse⟩ := hrun.of_outcome
    obtain rfl := Except.ok.inj houtcome
    have hseries := seriesRun_of_course hcourse
    -- The others have their turns before it is seen what came of this one.
    obtain ⟨e, rfl, hrest⟩ | ⟨errors, s₂, after, _, rfl, hrest, hdone⟩ := hothers.of_bind
    · obtain ⟨failures, -, herror⟩ := ih hrest
      exact nomatch herror
    obtain ⟨failures, hruns, herrors⟩ := ih hrest
    obtain rfl := Except.ok.inj herrors
    cases outcome with
    | ok u =>
      obtain ⟨rfl, rfl, -⟩ := hdone.of_pure
      rw [List.append_nil]
      exact ⟨failures, .ok hseries hruns, rfl⟩
    | error e =>
      obtain ⟨rfl, rfl, -⟩ := hdone.of_pure
      rw [List.append_nil]
      exact ⟨(series, e) :: failures, .failed hseries hruns, rfl⟩

theorem deletion_of_course {r : Outgoing} {x : Session Unit Unit}
    {After : List Exchange → Except SourceError Unit → Prop} (hr : a.bulkDelete ids = r)
    (h : (a.send r >>= fun _ => x).Course s log result s')
    (hx : ∀ s log result s', x.Course s log result s' → After log result) :
    Deletion a ids After log result := by
  subst hr
  obtain ⟨e, rfl, hsend⟩ | ⟨reply, s₁, before, rest, rfl, hsend, hafter⟩ := h.of_bind
  · obtain ⟨answer, rfl, hresult⟩ := of_send hsend
    exact .refused (fun ⟨reply, hreply⟩ => nomatch (hresult reply).2 hreply) e
  · obtain ⟨answer, rfl, hresult⟩ := of_send hsend
    exact .deleted ⟨reply, (hresult reply).1 rfl⟩ (hx _ _ _ _ hafter)

theorem lookedUp_of_course {φ : Type} {decode : Json → Option φ} {endpoint : String}
    {query : List (String × String)} {x : List φ → Session Unit Unit}
    {After : List φ → List Exchange → Except SourceError Unit → Prop}
    (hr : a.lookUp ids = a.getting endpoint query)
    (h : (a.fetch (listOf decode) endpoint query >>= x).Course s log result s')
    (hx : ∀ files s log result s', (x files).Course s log result s' →
      Deletion a ids (After files) log result) : LookedUp a ids decode After log result := by
  obtain ⟨e, rfl, hfetch⟩ | ⟨files, s₁, before, rest, rfl, hfetch, hrest⟩ := h.of_bind
  · obtain ⟨answer, rfl, hresult⟩ := of_fetch hfetch
    rw [← hr]
    exact .unknown (fun files hfiles => nomatch (hresult files).2 hfiles) e
  · obtain ⟨answer, rfl, hresult⟩ := of_fetch hfetch
    rw [← hr]
    exact .known ((hresult files).1 rfl) (hx _ _ _ _ _ hrest)

/-! ## Owners -/

section

variable {φ α : Type} {owner : φ → Int64} {value : φ → α} {files : List φ}

/-- The keys of a table that is filled from files by owner are the owners. -/
theorem owners_keys_ofList :
    Owners owner files (SortedTable.ofList (files.map fun f => (owner f, value f))).keys where
  ascending := by
    have hascending := (SortedTable.ofList (files.map fun f => (owner f, value f))).ascending
    exact List.pairwise_map.2 (hascending.imp Std.compare_eq_lt.1)
  mem_iff n := by
    rw [SortedTable.mem_keys_iff, SortedTable.isSome_get?_ofList]
    simp

theorem owners_eq_nil_iff {ids : List Int64} (h : Owners owner files ids) :
    ids = [] ↔ files = [] := by
  simp only [List.eq_nil_iff_forall_not_mem, h.mem_iff]
  constructor
  · intro hnone f hf
    exact hnone (owner f) ⟨f, hf, rfl⟩
  · rintro hnone n ⟨f, hf, -⟩
    exact hnone f hf

end

/-- The seasons under a series are those of its files. -/
theorem mem_seasons_iff {files : List EpisodeFile} {o : Int64 × List Int32}
    (h : o ∈ (seasonsBySeries files).entries) (n : Int32) :
    n ∈ o.2 ↔ ∃ f ∈ files, f.seriesId = o.1 ∧ f.season = n := by
  obtain ⟨series, seasons⟩ := o
  have hmem := SortedTable.mem_of_get?_ofList (SortedTable.mem_entries_iff.1 h)
  obtain ⟨f, -, heq⟩ := List.mem_map.1 hmem
  obtain ⟨rfl, rfl⟩ := Prod.mk.inj heq
  simp [and_assoc]

/-! ## Deletions -/

theorem moviesTold_of_course {files : List MovieFile} {movies : List Int64} {r : Outgoing}
    (howners : Owners (·.movieId) files movies) (hr : a.tellMovies movies = r)
    (h : (if movies.isEmpty then pure ()
      else a.send r >>= fun _ => pure () : Session Unit Unit).Course s log result s') :
    MoviesTold a files log result := by
  subst hr
  split at h
  · rename_i hnobody
    obtain ⟨rfl, rfl, -⟩ := h.of_pure
    exact .nobody ((owners_eq_nil_iff howners).1 (List.isEmpty_iff.1 hnobody))
  · rename_i hsomebody
    obtain ⟨answer, rfl, hresult⟩ := of_sent h
    refine .told (fun hnone => hsomebody ?_) howners hresult
    exact List.isEmpty_iff.2 ((owners_eq_nil_iff howners).2 hnone)

/-- The series that failed are in the order of their turns. -/
theorem SeriesRuns.sublist {owners : List (Int64 × List Int32)}
    {failures : List (Int64 × SourceError)} (h : a.SeriesRuns owners log failures) :
    (failures.map (·.1)).Sublist (owners.map (·.1)) := by
  induction h with
  | nil => exact List.Sublist.refl _
  | ok _ _ ih => exact ih.cons _
  | failed _ _ ih => exact ih.cons_cons _

theorem seriesTold_of_course {files : List EpisodeFile}
    (h : (a.unmonitorAll (seasonsBySeries files).entries >>= fun errors =>
      match SourceError.join errors with
      | .ok () => pure ()
      | .error e => throw e : Session Unit Unit).Course s log result s') :
    SeriesTold a files log result := by
  obtain ⟨e, rfl, hall⟩ | ⟨errors, s₁, before, rest, rfl, hall, hjoin⟩ := h.of_bind
  · obtain ⟨failures, -, herror⟩ := seriesRuns_of_course hall
    exact nomatch herror
  · obtain ⟨failures, hruns, herrors⟩ := seriesRuns_of_course hall
    obtain rfl := Except.ok.inj herrors
    have howners : Owners (·.seriesId) files ((seasonsBySeries files).entries.map (·.1)) :=
      owners_keys_ofList
    obtain ⟨rfl, hjoins⟩ : rest = [] ∧ Joins failures result := by
      obtain ⟨hnone, hok⟩ | ⟨e, herror, htells⟩ :=
        SourceError.join_map_api (failures.map seriesText)
      · rw [hok] at hjoin
        obtain ⟨rfl, rfl, -⟩ := hjoin.of_pure
        exact ⟨rfl, .ok (List.map_eq_nil_iff.1 hnone)⟩
      · rw [herror] at hjoin
        obtain ⟨rfl, rfl, -⟩ := hjoin.of_throw
        exact ⟨rfl, .failed htells⟩
    rw [List.append_nil]
    exact .told howners (fun o => mem_seasons_iff) hruns
      (howners.ascending.sublist hruns.sublist) hjoins

/-- Nothing is sent, and nothing fails. -/
def NothingTold (log : List Exchange) (result : Except SourceError Unit) : Prop :=
  log = [] ∧ result = .ok ()

/-- Without monitoring to be stopped, nothing comes before a deletion and nothing after it. -/
theorem deletion_of_deleteFiles (hdry : a.dryRun = false) (hids : ids ≠ [])
    (h : (a.deleteFiles ids false).Course s log result s') :
    Deletion a ids NothingTold log result := by
  have hnothing : ∀ s log result s', (pure () : Session Unit Unit).Course s log result s' →
      NothingTold log result := by
    intro s log result s' hdone
    obtain ⟨rfl, rfl, -⟩ := hdone.of_pure
    exact ⟨rfl, rfl⟩
  unfold deleteFiles at h
  rw [if_neg (mt List.isEmpty_iff.1 hids)] at h
  split at h
  · rename_i hkind
    simp only [deleteMovieFiles, hdry, Bool.false_eq_true, if_false] at h
    exact deletion_of_course (bulkDelete_of_movie hkind) h.of_pure_bind hnothing
  · rename_i hkind
    simp only [deleteEpisodeFiles, hdry, Bool.false_eq_true, if_false] at h
    exact deletion_of_course (bulkDelete_of_series hkind) h.of_pure_bind hnothing

theorem lookedUp_of_movie (hdry : a.dryRun = false) (hkind : a.kind = .movie) (hids : ids ≠ [])
    (h : (a.deleteFiles ids true).Course s log result s') :
    LookedUp a ids MovieFile.ofJson? a.MoviesTold log result := by
  unfold deleteFiles at h
  rw [if_neg (mt List.isEmpty_iff.1 hids), hkind] at h
  simp only [deleteMovieFiles, hdry, Bool.false_eq_true, if_false, if_true] at h
  refine lookedUp_of_course (lookUp_of_movie hkind) h fun files s log result s' hrest => ?_
  exact deletion_of_course (bulkDelete_of_movie hkind) hrest.of_pure_bind
    fun s log result s' => moviesTold_of_course owners_keys_ofList tellMovies_eq

theorem lookedUp_of_series (hdry : a.dryRun = false) (hkind : a.kind = .series) (hids : ids ≠ [])
    (h : (a.deleteFiles ids true).Course s log result s') :
    LookedUp a ids EpisodeFile.ofJson? a.SeriesTold log result := by
  unfold deleteFiles at h
  rw [if_neg (mt List.isEmpty_iff.1 hids), hkind] at h
  simp only [deleteEpisodeFiles, hdry, Bool.false_eq_true, if_false, if_true] at h
  refine lookedUp_of_course (lookUp_of_series hkind) h fun files s log result s' hrest => ?_
  exact deletion_of_course (bulkDelete_of_series hkind) hrest.of_pure_bind
    fun s log result s' => seriesTold_of_course

end

/-! ## What succeeds -/

/-- Whether an answer lists files as the library has them. -/
def ListsFiles (a : ArrServer) (answer : Except TransportError Reply) : Prop :=
  match a.kind with
  | .movie => ∃ files, ReadAs (listOf MovieFile.ofJson?) answer files
  | .series => ∃ files, ReadAs (listOf EpisodeFile.ofJson?) answer files

/-- Whether a request was answered with a success, and one that gets something with what it gets. -/
structure Succeeds (a : ArrServer) (ids : List Int64) (x : Exchange) : Prop where
  accepted : Accepted x.answer
  files : x.request = a.lookUp ids → a.ListsFiles x.answer
  document : ∀ series, x.request = a.getSeries series → ∃ j, ReadAs kept x.answer j

section

variable {ids : List Int64} {series : Int64} {answer : Except TransportError Reply}

theorem ListsFiles.accepted (h : a.ListsFiles answer) : Accepted answer := by
  unfold ListsFiles at h
  split at h
  · exact h.choose_spec.accepted
  · exact h.choose_spec.accepted

theorem succeeds_iff_of_not_get {r : Outgoing} (hr : r.method ≠ .get) :
    a.Succeeds ids ⟨r, answer⟩ ↔ Accepted answer := by
  refine ⟨Succeeds.accepted, fun h => ⟨h, ?_, ?_⟩⟩
  · rintro rfl
    exact absurd rfl hr
  · rintro series rfl
    exact absurd rfl hr

theorem lookUp_ne_getSeries (hids : ids ≠ []) : a.lookUp ids ≠ a.getSeries series := by
  intro h
  have hquery : (ids.map fun id => (a.idsName, toString id.toInt)) = [] := congrArg Outgoing.query h
  exact hids (List.map_eq_nil_iff.1 hquery)

theorem succeeds_lookUp_iff (hids : ids ≠ []) :
    a.Succeeds ids ⟨a.lookUp ids, answer⟩ ↔ a.ListsFiles answer :=
  ⟨fun h => h.files rfl, fun h =>
    ⟨h.accepted, fun _ => h, fun _ heq => absurd heq (lookUp_ne_getSeries hids)⟩⟩

theorem succeeds_getSeries_iff (hids : ids ≠ []) :
    a.Succeeds ids ⟨a.getSeries series, answer⟩ ↔ ∃ j, ReadAs kept answer j :=
  ⟨fun h => h.document series rfl, fun h =>
    ⟨h.choose_spec.accepted, fun heq => absurd heq.symm (lookUp_ne_getSeries hids), fun _ _ => h⟩⟩

theorem listsFiles_of_movie (h : a.kind = .movie) :
    a.ListsFiles answer ↔ ∃ files, ReadAs (listOf MovieFile.ofJson?) answer files := by
  rw [ListsFiles, h]

theorem listsFiles_of_series (h : a.kind = .series) :
    a.ListsFiles answer ↔ ∃ files, ReadAs (listOf EpisodeFile.ofJson?) answer files := by
  rw [ListsFiles, h]

variable {log : List Exchange} {result : Except SourceError Unit}

theorem NothingTold.ok_iff (h : NothingTold log result) :
    result = .ok () ↔ ∀ x ∈ log, a.Succeeds ids x := by
  obtain ⟨rfl, rfl⟩ := h
  simp

theorem MoviesTold.ok_iff {files : List MovieFile} (h : a.MoviesTold files log result) :
    result = .ok () ↔ ∀ x ∈ log, a.Succeeds ids x := by
  cases h with
  | nobody => simp
  | told _ _ hresult =>
    rw [hresult, List.forall_mem_singleton, succeeds_iff_of_not_get (by simp)]

theorem SeriesRun.ok_iff {seasons : List Int32} (hids : ids ≠ [])
    (h : a.SeriesRun series seasons log result) :
    result = .ok () ↔ ∀ x ∈ log, a.Succeeds ids x := by
  cases h with
  | unread hnone e =>
    rw [List.forall_mem_singleton, succeeds_getSeries_iff hids]
    exact iff_of_false nofun fun ⟨j, hj⟩ => hnone j hj
  | put htells hresult =>
    rw [List.forall_mem_cons, List.forall_mem_singleton, succeeds_getSeries_iff hids,
      succeeds_iff_of_not_get (by simp), hresult]
    exact (and_iff_right ⟨_, htells⟩).symm

/-- No series fails exactly if every request for one succeeds. -/
theorem SeriesRuns.eq_nil_iff {owners : List (Int64 × List Int32)}
    {failures : List (Int64 × SourceError)} (hids : ids ≠ [])
    (h : a.SeriesRuns owners log failures) :
    failures = [] ↔ ∀ x ∈ log, a.Succeeds ids x := by
  induction h with
  | nil => simp
  | ok hrun _ ih =>
    rw [List.forall_mem_append, ← hrun.ok_iff hids, ← ih]
    exact (and_iff_right rfl).symm
  | failed hrun _ _ =>
    rw [List.forall_mem_append, ← hrun.ok_iff hids]
    exact iff_of_false (List.cons_ne_nil _ _) fun h => nomatch h.1

theorem SeriesTold.ok_iff {files : List EpisodeFile} (hids : ids ≠ [])
    (h : a.SeriesTold files log result) : result = .ok () ↔ ∀ x ∈ log, a.Succeeds ids x := by
  obtain ⟨-, -, hruns, -, hjoins⟩ := h
  rw [← hruns.eq_nil_iff hids]
  cases hjoins with
  | ok hnone => exact iff_of_true rfl hnone
  | failed htells => exact iff_of_false nofun (mt (List.map_eq_nil_iff.2 ·) htells.ne_nil)

theorem Deletion.ok_iff {After : List Exchange → Except SourceError Unit → Prop}
    (hafter : ∀ log result, After log result →
      (result = .ok () ↔ ∀ x ∈ log, a.Succeeds ids x))
    (h : a.Deletion ids After log result) : result = .ok () ↔ ∀ x ∈ log, a.Succeeds ids x := by
  cases h with
  | refused hrefused e =>
    rw [List.forall_mem_singleton, succeeds_iff_of_not_get (by simp)]
    exact iff_of_false nofun hrefused
  | deleted haccepted hrest =>
    rw [List.forall_mem_cons, succeeds_iff_of_not_get (by simp), hafter _ _ hrest]
    exact (and_iff_right haccepted).symm

theorem LookedUp.ok_iff {φ : Type} {decode : Json → Option φ}
    {After : List φ → List Exchange → Except SourceError Unit → Prop} (hids : ids ≠ [])
    (hlists : ∀ answer, a.ListsFiles answer ↔ ∃ files, ReadAs (listOf decode) answer files)
    (hafter : ∀ files log result, After files log result →
      (result = .ok () ↔ ∀ x ∈ log, a.Succeeds ids x))
    (h : a.LookedUp ids decode After log result) :
    result = .ok () ↔ ∀ x ∈ log, a.Succeeds ids x := by
  cases h with
  | unknown hnone e =>
    rw [List.forall_mem_singleton, succeeds_lookUp_iff hids, hlists]
    exact iff_of_false nofun fun ⟨files, hfiles⟩ => hnone files hfiles
  | known htells hdeletion =>
    rw [List.forall_mem_cons, succeeds_lookUp_iff hids, hlists, hdeletion.ok_iff (hafter _)]
    exact (and_iff_right ⟨_, htells⟩).symm

end

end ArrServer

/-- Whatever a server answers to a deletion of files that is not dry: without ids nothing is sent,
and unless monitoring is to be stopped, only the deletion is. Otherwise the files are looked up
before they are deleted, and their owners are told after. A deletion succeeds exactly if every
request does that is sent for it. -/
theorem deletion_keeps_sequence {a : ArrServer} (hdry : a.dryRun = false) {ω : Type}
    (serve : Serving ω) (w : ω) (ids : List Int64) (stop : Bool) :
    let log := Dialog.exchanges serve ((a.deleteFiles ids stop).run.run ()) w
    let result := ((a.deleteFiles ids stop).lead serve () w).1
    (ids = [] → log = [] ∧ result = .ok ()) ∧
      (ids ≠ [] →
        (stop = false → a.Deletion ids ArrServer.NothingTold log result) ∧
        (stop = true → a.kind = .movie →
          a.LookedUp ids Arr.MovieFile.ofJson? a.MoviesTold log result) ∧
        (stop = true → a.kind = .series →
          a.LookedUp ids Arr.EpisodeFile.ofJson? a.SeriesTold log result) ∧
        (result = .ok () ↔ ∀ x ∈ log, a.Succeeds ids x)) := by
  intro log result
  have hcourse : (a.deleteFiles ids stop).Course () log result () :=
    Session.course_lead serve (a.deleteFiles ids stop) () w
  refine ⟨?_, fun hids => ?_⟩
  · intro hids
    rw [ArrServer.deleteFiles, if_pos (List.isEmpty_iff.2 hids)] at hcourse
    obtain ⟨hlog, hresult, -⟩ := hcourse.of_pure
    exact ⟨hlog, hresult⟩
  · have hdeletion (hstop : stop = false) : a.Deletion ids ArrServer.NothingTold log result :=
      ArrServer.deletion_of_deleteFiles hdry hids (hstop ▸ hcourse)
    have hmovies (hstop : stop = true) (hkind : a.kind = .movie) :
        a.LookedUp ids Arr.MovieFile.ofJson? a.MoviesTold log result :=
      ArrServer.lookedUp_of_movie hdry hkind hids (hstop ▸ hcourse)
    have hseries (hstop : stop = true) (hkind : a.kind = .series) :
        a.LookedUp ids Arr.EpisodeFile.ofJson? a.SeriesTold log result :=
      ArrServer.lookedUp_of_series hdry hkind hids (hstop ▸ hcourse)
    refine ⟨hdeletion, hmovies, hseries, ?_⟩
    cases stop with
    | false => exact (hdeletion rfl).ok_iff fun log result hnothing => hnothing.ok_iff
    | true =>
      cases hkind : a.kind with
      | movie =>
        exact (hmovies rfl hkind).ok_iff hids (fun _ => ArrServer.listsFiles_of_movie hkind)
          fun files log result htold => htold.ok_iff
      | series =>
        exact (hseries rfl hkind).ok_iff hids (fun _ => ArrServer.listsFiles_of_series hkind)
          fun files log result htold => htold.ok_iff hids

namespace Sample

/-- A library of series that deletes what it is told to. -/
def seriesLibrary : ArrServer := ⟨.series, { url := "http://series/", apiKey := "key" }, false⟩

/-- Files of two series, of which the first cannot be read. -/
def filesOfTwoSeries : List String :=
  ["[\x7b\"id\":1,\"seriesId\":5,\"seasonNumber\":1\x7d,"
    ++ "\x7b\"id\":2,\"seriesId\":3,\"seasonNumber\":1\x7d]", "", "?",
    "\x7b\"seasons\":[\x7b\"monitored\":true,\"seasonNumber\":1\x7d]\x7d", ""]

/-- What is sent for these files, and what comes of it. -/
def sentForFiles : List Exchange :=
  Dialog.exchanges recital ((seriesLibrary.deleteFiles [1, 2] true).run.run ()) filesOfTwoSeries

def resultForFiles : Except SourceError Unit :=
  ((seriesLibrary.deleteFiles [1, 2] true).lead recital () filesOfTwoSeries).1

end Sample

/-- The second series is told though the first one failed. -/
theorem second_series_told :
    (Sample.seriesLibrary.dryRun = false ∧ Sample.seriesLibrary.kind = .series) ∧
      Sample.seriesLibrary.LookedUp [1, 2] Arr.EpisodeFile.ofJson? Sample.seriesLibrary.SeriesTold
        Sample.sentForFiles Sample.resultForFiles ∧
      Sample.sentForFiles.map (fun x => (x.request.method, x.request.url, x.request.query))
        = [(.get, "http://series/api/v3/episodefile",
              [("episodeFileIds", "1"), ("episodeFileIds", "2")]),
            (.delete, "http://series/api/v3/episodefile/bulk", []),
            (.get, "http://series/api/v3/series/3", []),
            (.get, "http://series/api/v3/series/5", []),
            (.put, "http://series/api/v3/series/5", [])] ∧
      Sample.sentForFiles.filterMap (·.request.documentText)
        = ["\x7b\"episodeFileIds\":[1,2]\x7d",
            "\x7b\"seasons\":[\x7b\"monitored\":false,\"seasonNumber\":1\x7d]\x7d"] ∧
      Sample.resultForFiles.isOk = false := by
  refine ⟨⟨rfl, rfl⟩, ?_, by decide +kernel, by decide +kernel, by decide +kernel⟩
  have hsequence := (deletion_keeps_sequence (a := Sample.seriesLibrary) rfl Sample.recital
    Sample.filesOfTwoSeries [1, 2] true).2 (List.cons_ne_nil 1 [2])
  exact hsequence.2.2.1 rfl rfl

end SeedCleanup

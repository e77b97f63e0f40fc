import SeedCleanup.Config.Basic
import SeedCleanup.Media.Manager
import SeedCleanup.Net.Dialog
import SeedCleanup.Net.Status
import SeedCleanup.Text.Paths

/-!
# Radarr and Sonarr

The servers of media libraries: Radarr holds movies and Sonarr holds series. Files are deleted in
one request. When the titles are not to be monitored any more, the owners of the files are looked up
before and told after.
-/

namespace SeedCleanup

open SeedCleanup.Text

/-- A server of a media library. -/
structure ArrServer where
  /-- The kind of titles that the server holds. -/
  kind : MediaKind
  settings : LibrarySettings
  /-- Only look up what would be deleted. -/
  dryRun : Bool
deriving DecidableEq, Inhabited

/-- The name of the server that holds titles of a kind. -/
def MediaKind.serverName : MediaKind → String
  | movie => "radarr"
  | series => "sonarr"

/-! ## What servers say -/

namespace Arr

/-- A file of a movie, as Radarr tells it. -/
structure MovieFile where
  id : Int64
  movieId : Int64
  relativePath : String
  originalPath : Option String
deriving DecidableEq, Inhabited

/-- A movie, as Radarr tells it. -/
structure Movie where
  id : Int64
  title : String
  tmdbId : Int64
  added : Instant
  hasFile : Bool
  sizeOnDisk : Int64
  file : Option MovieFile
deriving DecidableEq, Inhabited

/-- A series, as Sonarr tells it. -/
structure Series where
  id : Int64
  title : String
  slug : String
  added : Instant
  sizeOnDisk : Int64
deriving DecidableEq, Inhabited

/-- A file of a series, as Sonarr tells it. -/
structure EpisodeFile where
  id : Int64
  seriesId : Int64
  season : Int32
  relativePath : String
  size : Int64
deriving DecidableEq, Inhabited

/-- Reads a file of a movie. -/
def MovieFile.ofJson? (j : Json) : Option MovieFile := do
  let r ← Json.plain.record? ["id", "movieId", "relativePath", "originalFilePath"] j
  let id ← r.required "id" Json.int64?
  let movieId ← r.withDefault "movieId" 0 Json.int64?
  let relativePath ← r.withDefault "relativePath" "" Json.string?
  let originalPath ← r.withDefault "originalFilePath" none (Json.option? Json.string?)
  some ⟨id, movieId, relativePath, originalPath⟩

/-- Reads a movie. -/
def Movie.ofJson? (j : Json) : Option Movie := do
  let r ← Json.plain.record?
    ["id", "title", "tmdbId", "added", "hasFile", "sizeOnDisk", "movieFile"] j
  let id ← r.required "id" Json.int64?
  let title ← r.required "title" Json.string?
  let tmdbId ← r.withDefault "tmdbId" 0 Json.int64?
  let added ← r.required "added" Instant.ofJson?
  let hasFile ← r.withDefault "hasFile" false Json.bool?
  let sizeOnDisk ← r.withDefault "sizeOnDisk" 0 Json.int64?
  let file ← r.withDefault "movieFile" none (Json.option? MovieFile.ofJson?)
  some ⟨id, title, tmdbId, added, hasFile, sizeOnDisk, file⟩

/-- Reads the size of a series from its statistics. -/
def sizeOnDisk? (j : Json) : Option Int64 := do
  let r ← Json.plain.record? ["sizeOnDisk"] j
  r.withDefault "sizeOnDisk" 0 Json.int64?

/-- Reads a series. -/
def Series.ofJson? (j : Json) : Option Series := do
  let r ← Json.plain.record? ["id", "title", "titleSlug", "added", "statistics"] j
  let id ← r.required "id" Json.int64?
  let title ← r.required "title" Json.string?
  let slug ← r.withDefault "titleSlug" "" Json.string?
  let added ← r.required "added" Instant.ofJson?
  let sizeOnDisk ← r.withDefault "statistics" 0 sizeOnDisk?
  some ⟨id, title, slug, added, sizeOnDisk⟩

/-- Reads a file of a series. -/
def EpisodeFile.ofJson? (j : Json) : Option EpisodeFile := do
  let r ← Json.plain.record? ["id", "seriesId", "seasonNumber", "relativePath", "size"] j
  let id ← r.required "id" Json.int64?
  let seriesId ← r.required "seriesId" Json.int64?
  let season ← r.required "seasonNumber" Json.int32?
  let relativePath ← r.withDefault "relativePath" "" Json.string?
  let size ← r.withDefault "size" 0 Json.int64?
  some ⟨id, seriesId, season, relativePath, size⟩

/-! ## Titles and files -/

/-- A size; a server may say a negative one for nothing. -/
def sizeOf (n : Int64) : UInt64 := UInt64.ofNat n.toInt.toNat

/-- The name of a file, or its whole path if it ends in no name. -/
def fileName (path : String) : String := (lastComponent? path).getD path

/-- The path under which the file of a movie was downloaded, as far as it is known. -/
def MovieFile.path (f : MovieFile) : String :=
  match f.originalPath with
  | some p => if p.isEmpty then f.relativePath else p
  | none => f.relativePath

/-- A movie as an entry, given the address of its server. A movie without a file is none. -/
def Movie.entry? (base : String) (m : Movie) : Option MediaEntry :=
  match m.file with
  | some f =>
    if m.hasFile then
      some
        { title := ⟨m.id, .movie, m.title, base ++ "/movie/" ++ toString m.tmdbId.toInt, m.added⟩
          files := [⟨f.id, -1, fileName f.path, sizeOf m.sizeOnDisk⟩] }
    else none
  | none => none

/-- A file of a series as a file of a library. -/
def EpisodeFile.toMediaFile (f : EpisodeFile) : MediaFile :=
  ⟨f.id, f.season, fileName f.relativePath, sizeOf f.size⟩

/-- A series and its files as an entry, given the address of the server. -/
def Series.entry (base : String) (s : Series) (files : List EpisodeFile) : MediaEntry :=
  { title := ⟨s.id, .series, s.title, base ++ "/series/" ++ s.slug, s.added⟩
    files := files.map EpisodeFile.toMediaFile }

/-! ## Monitoring -/

/-- Whether the number of a season, cut to thirty-two bits, is one of some seasons. -/
def isNamedSeason (seasons : List Int32) : Json → Bool
  | .num n => match n.toInt? with
    | some i => decide (i < Nat.pow 2 63) && seasons.contains (Int32.ofInt i)
    | none => false
  | _ => false

/-- The document of a season, not monitored if it is one of some seasons. -/
def unmonitorSeason (seasons : List Int32) (j : Json) : Json :=
  match j with
  | .obj members =>
    if (members.lookup "seasonNumber").any (isNamedSeason seasons) then
      .obj (Json.setMember "monitored" (.bool false) members)
    else j
  | _ => j

/-- The document of a series in which some seasons are not monitored. -/
def unmonitor (seasons : List Int32) (j : Json) : Json :=
  match j with
  | .obj members => .obj (members.map fun m => match m with
    | ("seasons", .arr items) => ("seasons", .arr (items.map (unmonitorSeason seasons)))
    | _ => m)
  | _ => j

/-- The seasons that files belong to, for each series. -/
def seasonsBySeries (files : List EpisodeFile) : SortedTable Int64 (List Int32) :=
  .ofList (files.map fun f =>
    (f.seriesId, (files.filter fun g => g.seriesId == f.seriesId).map (·.season)))

end Arr

/-! ## Asking a server -/

namespace ArrServer

open Arr

/-- A server that requests can be sent to. Without a key there is none. -/
def ofSettings (kind : MediaKind) (settings : LibrarySettings) (dryRun : Bool) :
    Except SourceError ArrServer :=
  if settings.apiKey.isEmpty then
    .error (.authenticationFailed (kind.serverName ++ " API key is required"))
  else .ok ⟨kind, settings, dryRun⟩

variable (a : ArrServer)

/-- The name of the server. -/
def name : String := a.kind.serverName

/-- The address of the server without slashes at its end. -/
def base : String := String.ofList (dropEndWhile (· == '/') a.settings.url.toList)

/-- A request to an endpoint. -/
def request (method : HttpMethod) (endpoint : String) (query : List (String × String) := [])
    (body : HttpBody := .none) : Outgoing :=
  ⟨method, a.base ++ "/api/v3" ++ endpoint, query, some a.settings.apiKey, body⟩

/-- What an answer without success means. -/
def refusal? (r : Reply) : Option SourceError :=
  if r.status = 401 then some (.authenticationFailed ("invalid " ++ a.name ++ " API key"))
  else if r.status = 404 then some (.notFound r.path)
  else if Status.isSuccess r.status then none
  else some (.api (a.name ++ " returned HTTP " ++ Status.text r.status ++ ": " ++
    String.ofList (r.body.textOrNothing.toList.take 200)))

/-- Send a request, and refuse an answer without success. -/
def send (r : Outgoing) : Session Unit Reply := do
  let reply ← Session.send r
  match a.refusal? reply with
  | some e => throw e
  | none => return reply

/-- Get a document and decode it. -/
def fetch {α : Type} (decode : String → Option α) (endpoint : String)
    (query : List (String × String) := []) : Session Unit α := do
  let reply ← a.send (a.request .get endpoint query)
  match reply.body.text.toOption.bind decode with
  | some v => return v
  | none => throw (.api ("failed to parse " ++ a.name ++ " response from " ++ endpoint ++
      ": not the expected document"))

/-- Decodes a list. -/
def listOf {α : Type} (decode : Json → Option α) (body : String) : Option (List α) :=
  (Json.parse body).bind (Json.list? decode)

/-! ## Reporting -/

/-- The movies with a file. -/
def movies : Session Unit (List MediaEntry) := do
  let movies ← a.fetch (listOf Movie.ofJson?) "/movie"
  return movies.filterMap (Movie.entry? a.base)

/-- The series of a list that have files, with their files. -/
def seriesEntries : List Series → Session Unit (List MediaEntry)
  | [] => return []
  | s :: rest =>
    if s.sizeOnDisk = 0 then seriesEntries rest
    else do
      let files ← a.fetch (listOf EpisodeFile.ofJson?) "/episodefile"
        [("seriesId", toString s.id.toInt)]
      let entries ← seriesEntries rest
      return s.entry a.base files :: entries

/-- The titles of the server. -/
def titles : Session Unit (List MediaEntry) :=
  match a.kind with
  | .movie => a.movies
  | .series => do
    let series ← a.fetch (listOf Series.ofJson?) "/series"
    a.seriesEntries series

/-! ## Deleting -/

/-- Ids as values of a query. -/
def idQuery (name : String) (ids : List Int64) : List (String × String) :=
  ids.map fun id => (name, toString id.toInt)

/-- Ids as a document. -/
def idList (ids : List Int64) : Json := .ofList (fun id => .ofInt id.toInt) ids

/-- Delete files of movies. -/
def deleteMovieFiles (ids : List Int64) (stopMonitoring : Bool) : Session Unit Unit := do
  let owners ←
    if stopMonitoring then do
      let files ← a.fetch (listOf MovieFile.ofJson?) "/moviefile" (idQuery "movieFileIds" ids)
      pure (SortedTable.ofList (files.map fun f => (f.movieId, ()))).keys
    else pure []
  if a.dryRun then return ()
  let _ ← a.send (a.request .delete "/moviefile/bulk" []
    (.json (.obj [("movieFileIds", idList ids)])))
  if owners.isEmpty then return ()
  let _ ← a.send (a.request .put "/movie/editor" []
    (.json (.obj [("movieIds", idList owners), ("monitored", .bool false)])))
  return ()

/-- Decodes a document of which every part is kept. -/
def kept (body : String) : Option Json := (Json.parseKept body).map Json.sorted

/-- Stop monitoring seasons of a series. The server takes only whole documents, so the document of
the series is sent back as it came but for the seasons. -/
def unmonitorSeries (series : Int64) (seasons : List Int32) : Session Unit Unit := do
  let endpoint := "/series/" ++ toString series.toInt
  let j ← a.fetch kept endpoint
  let _ ← a.send (a.request .put endpoint [] (.json (unmonitor seasons j)))
  return ()

/-- Stop monitoring seasons of several series. No failure keeps the others from being told. -/
def unmonitorAll : List (Int64 × List Int32) → Session Unit (List SourceError)
  | [] => return []
  | (series, seasons) :: rest => do
    let result ← (a.unmonitorSeries series seasons).outcome
    let errors ← unmonitorAll rest
    match result with
    | .ok () => return errors
    | .error e => return .api ("could not update monitoring status of series " ++
        toString series.toInt ++ ": " ++ e.message) :: errors

/-- Delete files of series. -/
def deleteEpisodeFiles (ids : List Int64) (stopMonitoring : Bool) : Session Unit Unit := do
  let owners ←
    if stopMonitoring then do
      let files ← a.fetch (listOf EpisodeFile.ofJson?) "/episodefile" (idQuery "episodeFileIds" ids)
      pure (seasonsBySeries files).entries
    else pure []
  if a.dryRun then return ()
  let _ ← a.send (a.request .delete "/episodefile/bulk" []
    (.json (.obj [("episodeFileIds", idList ids)])))
  let errors ← a.unmonitorAll owners
  match SourceError.join errors with
  | .ok () => return ()
  | .error e => throw e

/-- Delete files; without any nothing is sent. -/
def deleteFiles (ids : List Int64) (stopMonitoring : Bool) : Session Unit Unit :=
  if ids.isEmpty then return ()
  else
    match a.kind with
    | .movie => a.deleteMovieFiles ids stopMonitoring
    | .series => a.deleteEpisodeFiles ids stopMonitoring

end ArrServer

end SeedCleanup

import SeedCleanup.Config.Basic
import SeedCleanup.Net.Dialog
import SeedCleanup.Net.Status
import SeedCleanup.Net.Url
import SeedCleanup.Torrent.Manager

/-!
# qBittorrent

A client that is asked over the web after a login. A session may run out at any time; then the login
is repeated and the request sent once more.
-/

namespace SeedCleanup

open SeedCleanup.Text

/-- A qBittorrent client. -/
structure QBittorrent where
  settings : ClientSettings
  /-- Only look up what would be deleted. -/
  dryRun : Bool
deriving DecidableEq, Inhabited

namespace QBittorrent

/-! ## What clients say -/

/-- A torrent, as the client tells it. -/
structure Info where
  hash : String
  name : String
  ratio : Binary64
  addedOn : Int64
deriving DecidableEq, Inhabited

/-- Reads a torrent. -/
def Info.ofJson? (j : Json) : Option Info := do
  let r ← Json.plain.record? ["hash", "name", "ratio", "added_on"] j
  let hash ← r.required "hash" Json.string?
  let name ← r.required "name" Json.string?
  let ratio ← r.required "ratio" Json.binary64?
  let addedOn ← r.required "added_on" Json.int64?
  some ⟨hash, name, ratio, addedOn⟩

/-- Reads the address of a tracker. -/
def trackerUrl? (j : Json) : Option String := do
  let r ← Json.plain.record? ["url"] j
  r.required "url" Json.string?

/-- Reads a file of a torrent. -/
def file? (j : Json) : Option TorrentFile := do
  let r ← Json.plain.record? ["name", "size"] j
  let name ← r.required "name" Json.string?
  let size ← r.required "size" Json.int64?
  some ⟨name, UInt64.ofNat size.toInt.toNat⟩

/-- The hosts of addresses, each once. What is no address with a host is passed over. -/
def trackerHosts (urls : List String) : List String :=
  (urls.filterMap fun url => (Url.parse url).bind fun u =>
    if u.hasHost then u.host else none).eraseDups

/-- A torrent of a client, with its trackers and files. -/
def Info.torrent (i : Info) (client : String) (trackers : List String)
    (files : List TorrentFile) : Torrent :=
  ⟨client, lowercase i.hash, i.name, i.ratio,
    Instant.ofEpochSeconds (max i.addedOn.toInt 0), trackers, files⟩

/-! ## Asking a client -/

variable (q : QBittorrent)

/-- The name of the client. -/
def name : String := q.settings.name

/-- The address of an endpoint. -/
def url (endpoint : String) : String :=
  String.ofList (dropEndWhile (· == '/') q.settings.url.toList) ++ endpoint

/-- The request of a login. -/
def loginRequest : Outgoing :=
  { method := .post
    url := q.url "/api/v2/auth/login"
    body := .form [("username", q.settings.username), ("password", q.settings.password)] }

/-- Why a login failed, if it did. -/
def loginFailure? (r : Reply) : Option SourceError :=
  let body := r.body.textOrNothing.toList
  if occursIn "Ok.".toList body then none
  else if occursIn "Fails.".toList body ∨ r.status = 403 then
    some (.authenticationFailed ("invalid credentials for client " ++ q.name))
  else
    some (.authenticationFailed ("unexpected login response: " ++ String.ofList (body.take 100)))

/-- Log in. The state tells whether there is a session. -/
def login : Session Bool Unit := do
  let reply ← Session.send q.loginRequest
  match q.loginFailure? reply with
  | none => set true
  | some e => throw e

/-- Log in if there is no session. -/
def enter : Session Bool Unit := do
  if !(← get) then q.login

/-- The text of an answer, which must be a success and come whole. -/
def textOf (reply : Reply) : Session Bool String :=
  if Status.isSuccess reply.status then
    match reply.body.text with
    | .ok text => return text
    | .error e => throw e
  else throw (.api ("HTTP " ++ Status.text reply.status))

/-- Send a request once more, in a new session. -/
def resend (r : Outgoing) : Session Bool String := do
  set false
  q.login
  textOf (← Session.send r)

/-- Send a request within a session, and once more if the session turns out to have ended. -/
def execute (r : Outgoing) : Session Bool String := do
  q.enter
  let first ← Session.send r
  if first.status = 403 then q.resend r else textOf first

/-- Get a document and decode it. -/
def fetch {α : Type} (decode : Json → Option α) (endpoint : String)
    (query : List (String × String)) : Session Bool (List α) := do
  let body ← q.execute { method := .get, url := q.url endpoint, query }
  match (Json.parse body).bind (Json.list? decode) with
  | some v => return v
  | none => throw (.api "Failed to parse response: not the expected document")

/-- A torrent with its trackers and files. -/
def describe (i : Info) : Session Bool Torrent := do
  let query := [("hash", lowercase i.hash)]
  let urls ← q.fetch trackerUrl? "/api/v2/torrents/trackers" query
  let files ← q.fetch file? "/api/v2/torrents/files" query
  return i.torrent q.name (trackerHosts urls) files

/-- The torrents of a list, each with its trackers and files. -/
def describeAll : List Info → Session Bool (List Torrent)
  | [] => return []
  | i :: rest => do
    let t ← q.describe i
    let ts ← describeAll rest
    return t :: ts

/-- The torrents of the client, the oldest first. -/
def torrents : Session Bool (List Torrent) := do
  let infos ← q.fetch Info.ofJson? "/api/v2/torrents/info" [("sort", "added_on")]
  q.describeAll infos

/-- Delete a torrent and its data, if the client has it. -/
def delete (id : String) : Session Bool Unit := do
  let hash := lowercase id
  let existing ← q.fetch Info.ofJson? "/api/v2/torrents/info" [("hashes", hash)]
  if existing.isEmpty then
    throw (.notFound ("torrent " ++ hash ++ " on client " ++ q.name))
  if q.dryRun then return ()
  let _ ← q.execute
    { method := .post
      url := q.url "/api/v2/torrents/delete"
      body := .form [("hashes", hash), ("deleteFiles", "true")] }
  return ()

end QBittorrent

end SeedCleanup

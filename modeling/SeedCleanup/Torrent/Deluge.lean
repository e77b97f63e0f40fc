import SeedCleanup.Config.Basic
import SeedCleanup.Net.Dialog
import SeedCleanup.Net.Status
import SeedCleanup.Text.Lowercase
import SeedCleanup.Torrent.Manager

/-!
# Deluge

A client that is asked by calls of methods over the web. A login binds the session to a daemon. A
session may end at any time; then the login is repeated and the method called once more.
-/

namespace SeedCleanup

open SeedCleanup.Text

/-- A Deluge client. -/
structure Deluge where
  settings : ClientSettings
  /-- Only look up what would be deleted. -/
  dryRun : Bool
deriving DecidableEq, Inhabited

namespace Deluge

/-! ## What clients say -/

/-- An error of a method. -/
structure CallError where
  message : String
  code : Int64
deriving DecidableEq, Inhabited

/-- What a method answers. -/
structure CallResult where
  result : Json
  error : Option CallError
deriving Inhabited

/-- The code of an error that asks for a login. -/
def notAuthenticated : Int64 := 1

/-- Reads an error. -/
def CallError.ofJson? (j : Json) : Option CallError := do
  let r ← Json.plain.record? ["message", "code"] j
  let message ← r.withDefault "message" "" Json.string?
  let code ← r.withDefault "code" 0 Json.int64?
  some ⟨message, code⟩

/-- Reads an answer. -/
def CallResult.ofJson? (j : Json) : Option CallResult := do
  let r ← Json.plain.record? ["result", "error"] j
  let result ← r.withDefault "result" .null fun j =>
    if j.isKeepable 1 then some j.sorted else none
  let error ← r.withDefault "error" none (Json.option? CallError.ofJson?)
  some ⟨result, error⟩

/-- Whether an answer asks for a login. -/
def CallResult.asksForLogin (r : CallResult) : Bool := r.error.any (·.code == notAuthenticated)

/-- The value that a method answered. -/
def CallResult.value {α : Type} (r : CallResult) (method : String) (decode : Json → Option α) :
    Except SourceError α :=
  match r.error with
  | some e =>
    .error (
      if e.code = notAuthenticated then .authenticationFailed e.message
      else if occursIn "InvalidTorrentError".toList e.message.toList then
        .notFound e.message
      else .api (method ++ " failed: " ++ e.message))
  | none =>
    match decode r.result with
    | some v => .ok v
    | none => .error (.api ("Failed to parse " ++ method ++ " result: not the expected value"))

/-- A torrent, as the client tells it. -/
structure Status where
  name : String
  ratio : Binary64
  completed : Binary64
  added : Binary64
  trackerHost : String
  files : List TorrentFile
deriving DecidableEq, Inhabited

/-- Reads a torrent. -/
def Status.ofJson? (j : Json) : Option Status := do
  let r ← Json.plain.record?
    ["name", "ratio", "completed_time", "time_added", "tracker_host", "files"] j
  let name ← r.required "name" Json.string?
  let ratio ← r.withDefault "ratio" .zero Json.binary64?
  let completed ← r.withDefault "completed_time" .zero Json.binary64?
  let added ← r.withDefault "time_added" .zero Json.binary64?
  let trackerHost ← r.withDefault "tracker_host" "" Json.string?
  let files ← r.withDefault "files" [] (Json.list? TorrentFile.ofJson?)
  some ⟨name, ratio, completed, added, trackerHost, files⟩

/-- The moment a number of seconds after 1970 began, cut to whole seconds. What is no such moment is
that beginning. -/
def instantOf (seconds : Binary64) : Instant :=
  if !seconds.isFinite || seconds.le .zero then ⟨0, 0⟩
  else Instant.ofEpochSeconds seconds.truncate

/-- A torrent of a client. It seeds since it was completed, as far as that is known. -/
def Status.torrent (s : Status) (client hash : String) : Torrent :=
  { client
    id := lowercase hash
    name := s.name
    ratio := s.ratio.max .zero
    added := instantOf (if Binary64.zero.lt s.completed then s.completed else s.added)
    trackers := if s.trackerHost.isEmpty then [] else [s.trackerHost]
    files := s.files }

/-- Whether a torrent comes before another: the older first, then by number. -/
def isBefore (a b : Torrent) : Bool :=
  ((compare a.added b.added).then (compare a.id b.id)) != .gt

/-- The torrents that a client tells by their numbers. -/
def torrentsOf (client : String) (statuses : List (String × Status)) : List Torrent :=
  (statuses.map fun s => s.2.torrent client s.1).mergeSort isBefore

/-- Reads values by name. -/
def table? {α : Type} (decode : Json → Option α) : Json → Option (List (String × α))
  | .obj members => members.mapM fun m => (decode m.2).map (m.1, ·)
  | _ => none

/-- Reads the number of the first daemon; the inner component is missing if there is none. -/
def firstHost? (j : Json) : Option (Option String) := do
  let hosts ← j.list? (Json.list? some)
  match hosts with
  | (.str host :: _) :: _ => some (some host)
  | _ => some none

/-! ## Asking a client -/

/-- Whether there is a session with a daemon, and the number of the next call. -/
structure State where
  authenticated : Bool := false
  nextId : UInt64 := 1
deriving DecidableEq, Inhabited

variable (d : Deluge)

/-- The name of the client. -/
def name : String := d.settings.name

/-- The address of the client. -/
def url : String := String.ofList (dropEndWhile (· == '/') d.settings.url.toList) ++ "/json"

/-- The request that calls a method. -/
def request (method : String) (params : List Json) (id : UInt64) : Outgoing :=
  { method := .post
    url := d.url
    body := .json (.obj [("method", .str method), ("params", .arr params),
      ("id", .ofInt id.toNat)]) }

/-- Call a method once. -/
def callOnce (method : String) (params : List Json) : Session State CallResult := do
  let s ← get
  set { s with nextId := s.nextId + 1 }
  let reply ← Session.send (d.request method params s.nextId)
  if !SeedCleanup.Status.isSuccess reply.status then
    throw (.api ("HTTP " ++ SeedCleanup.Status.text reply.status ++ " on " ++ method))
  match (reply.body.text.toOption.bind Json.parse).bind CallResult.ofJson? with
  | some r => return r
  | none => throw (.api ("Failed to parse " ++ method ++ " response: not the expected document"))

/-- Call a method once and take its value. -/
def valueOnce {α : Type} (decode : Json → Option α) (method : String) (params : List Json) :
    Session State α := do
  let r ← d.callOnce method params
  match r.value method decode with
  | .ok v => return v
  | .error e => throw e

/-- Bind the session to the first daemon. -/
def connect : Session State Unit := do
  match ← d.valueOnce firstHost? "web.get_hosts" [] with
  | some host =>
    let _ ← d.valueOnce some "web.connect" [.str host]
    return ()
  | none =>
    throw (.connectionFailed ("no daemon configured in the Web UI of client " ++ d.name))

/-- Log in. -/
def login : Session State Unit := do
  let isIn ← d.valueOnce Json.bool? "auth.login" [.str d.settings.password]
  if !isIn then throw (.authenticationFailed ("invalid password for client " ++ d.name))
  let isConnected ← d.valueOnce Json.bool? "web.connected" []
  if !isConnected then d.connect
  modify fun s => { s with authenticated := true }

/-- Call a method within a session, and once more if the session turns out to have ended. -/
def call {α : Type} (decode : Json → Option α) (method : String) (params : List Json) :
    Session State α := do
  if !(← get).authenticated then d.login
  let first ← d.callOnce method params
  let r ←
    if first.asksForLogin then do
      modify fun s => { s with authenticated := false }
      d.login
      d.callOnce method params
    else pure first
  match r.value method decode with
  | .ok v => return v
  | .error e => throw e

/-- What is asked about each torrent. -/
def statusFields : List Json :=
  ["name", "ratio", "completed_time", "time_added", "tracker_host", "files"].map .str

/-- The torrents that the client seeds, the oldest first. -/
def torrents : Session State (List Torrent) := do
  let statuses ← d.call (table? Status.ofJson?) "core.get_torrents_status"
    [.obj [("state", .str "Seeding")], .arr statusFields]
  return torrentsOf d.name statuses

/-- Delete a torrent and its data, if the client has it. -/
def delete (id : String) : Session State Unit := do
  let hash := lowercase id
  let found ← d.call (table? some) "core.get_torrent_status" [.str hash, .arr [.str "name"]]
  if found.isEmpty then throw (.notFound ("torrent " ++ hash ++ " on client " ++ d.name))
  if d.dryRun then return ()
  let removed ← d.call Json.bool? "core.remove_torrent" [.str hash, .bool true]
  if removed then return ()
  else throw (.api ("client " ++ d.name ++ " refused to remove torrent " ++ hash))

end Deluge

end SeedCleanup

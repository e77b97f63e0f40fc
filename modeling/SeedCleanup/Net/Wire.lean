import SeedCleanup.Json.Printer
import SeedCleanup.Net.Dialog
import SeedCleanup.Net.Url

/-!
# Scripted servers

A server that answers the requests that reach it by a script, one line for each, and writes down
what it was sent. The client keeps the cookies of the server if it is to. A script sends the client
nowhere else: no answer names another place, so that a client that follows redirects has none to
follow, and each sending is one request.
-/

namespace SeedCleanup

/-! ## Cookies -/

/-- A cookie, and the paths below which it is sent. -/
structure Cookie where
  name : String
  value : String
  path : String
deriving DecidableEq, Inhabited

namespace Cookie

open SeedCleanup.Text

/-- The path of a cookie that names none: the directory of the request. -/
def usualPath (requestPath : String) : String :=
  match requestPath.toList.reverse.dropWhile (· != '/') with
  | [] => "/"
  | ['/'] => "/"
  | _ :: dir => String.ofList dir.reverse

/-- A part of a cookie: its name in small letters, and its value. -/
def property (part : List Char) : String × String :=
  match cutFirst? '=' part with
  | some (name, value) =>
    (String.ofList ((trim name).map Char.toLower), String.ofList (trim value))
  | none => (String.ofList ((trim part).map Char.toLower), "")

/-- Reads a cookie that came with the answer to a request. The second component tells whether the
cookie is to be dropped. -/
def parse? (requestPath text : String) : Option (Cookie × Bool) :=
  match splitOnChar ';' text.toList with
  | first :: properties => do
    let (name, value) ← cutFirst? '=' first
    let name := trim name
    if name.isEmpty then none
    let properties := properties.map property
    let path := match properties.lookup "path" with
      | some p => if p.toList.head? = some '/' then p else usualPath requestPath
      | none => usualPath requestPath
    let isOver := match (properties.lookup "max-age").bind fun a => signed64? a.toList with
      | some n => decide (n ≤ 0)
      | none => false
    some (⟨String.ofList name, String.ofList (trim value), path⟩, isOver)
  | [] => none

/-- Whether a cookie is sent with a request. -/
def goesTo (c : Cookie) (requestPath : String) : Bool :=
  c.path == requestPath ||
    match afterStart? c.path.toList requestPath.toList with
    | some rest => c.path.toList.getLast? == some '/' || rest.head? == some '/'
    | none => false

end Cookie

/-! ## The script -/

/-- What a scripted server does with a request. -/
inductive ScriptLine where
  | answer (status : Nat) (body : String) (setCookie : Option String)
  /-- Closes the connection without an answer. -/
  | close
  /-- Never answers. -/
  | hang
deriving DecidableEq, Inhabited

/-- A request as it reached a server. -/
structure Received where
  method : HttpMethod
  /-- The path and the query. -/
  target : String
  apiKey : Option String
  cookies : List (String × String)
  body : HttpBody

/-- A client and a scripted server. -/
structure Wire where
  /-- Where the server listens, if it does. -/
  server : Option String
  /-- What the server does with the next requests. -/
  script : List ScriptLine
  /-- The cookies that the client holds, if it keeps them. -/
  cookies : Option (List Cookie) := none
  /-- How long the client waits for an answer. -/
  timeoutMillis : Nat := 30000
  /-- The requests that reached the server, the first one first. -/
  received : List Received := []
  /-- How much time has passed. -/
  elapsed : Nat := 0

namespace Wire

/-- What the server does after its script. -/
def exhausted : ScriptLine := .answer 500 "script exhausted" none

/-- The address that a request goes to. -/
def address? (r : Outgoing) : Except TransportError Url :=
  match Url.parse r.url with
  | none => .error .invalidUrl
  | some u =>
    if !u.hasHost then .error (.unsupportedUrl u.text)
    else
      let u := u.withoutUser.addQuery r.query
      if u.scheme = "http" ∨ u.scheme = "https" then .ok u else .error (.unsupportedUrl u.text)

/-- Keep a cookie that came with an answer. -/
def keepCookie (w : Wire) (requestPath : String) (text : Option String) : Wire :=
  match w.cookies, text.bind (Cookie.parse? requestPath) with
  | some held, some (cookie, isOver) =>
    let others := held.filter fun c => !(c.name == cookie.name && c.path == cookie.path)
    { w with cookies := some (if isOver then others else others ++ [cookie]) }
  | _, _ => w

/-- The cookies that go with a request. -/
def cookiesFor (w : Wire) (requestPath : String) : List (String × String) :=
  ((w.cookies.getD []).filter (·.goesTo requestPath)).map fun c => (c.name, c.value)

/-- Whether an answer with a status can have a body. What is sent as the body of another is lost. -/
def carriesBody (status : Nat) : Bool := status != 204 && status != 304

/-- Send a request to a server that listens. Its answer is the end of the sending, since it sends the
client nowhere else. -/
def deliver (w : Wire) (u : Url) (r : Outgoing) : Except TransportError Reply × Wire :=
  let line := w.script.head?.getD exhausted
  let w := { w with
    received := w.received ++ [⟨r.method, u.target, r.apiKey, w.cookiesFor u.path, r.body⟩]
    script := w.script.tail }
  match line with
  | .answer status body setCookie =>
    (.ok ⟨status, u.path, if carriesBody status then body else ""⟩,
      w.keepCookie u.path setCookie)
  | .close => (.error (.broken u.text), w)
  | .hang => (.error .timedOut, { w with elapsed := w.elapsed + w.timeoutMillis })

/-- Send a request. -/
def serve (w : Wire) (r : Outgoing) : Except TransportError Reply × Wire :=
  match address? r with
  | .error e => (.error e, w)
  | .ok u =>
    if u.scheme = "http" ∧ w.server = some u.authority then w.deliver u r
    else (.error (.refused u.text), w)

end Wire

end SeedCleanup

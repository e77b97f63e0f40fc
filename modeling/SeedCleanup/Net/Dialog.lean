import SeedCleanup.Json.Basic
import SeedCleanup.Source.Error

/-!
# Dialogs with servers

A client of a server sends requests, and each may depend on the answers before it. A `Dialog` is
such a client without its server: it can be led with any server, and what it may send can be seen
from all answers that it may get.
-/

namespace SeedCleanup

/-! ## Requests and answers -/

/-- What a request does. -/
inductive HttpMethod where
  | get
  | post
  | put
  | delete
deriving DecidableEq, Inhabited

/-- What goes with a request. -/
inductive HttpBody where
  | none
  | form (pairs : List (String × String))
  | json (j : Json)
deriving Inhabited

/-- A request that a client sends. -/
structure Outgoing where
  method : HttpMethod
  /-- The text of the address, which may be none. -/
  url : String
  /-- Names and values that are added to the query of the address. -/
  query : List (String × String) := []
  apiKey : Option String := none
  body : HttpBody := .none
deriving Inhabited

/-- What came of the body of an answer. A server may be lost after it told the status. -/
inductive ReplyBody where
  | whole (text : String)
  /-- The connection was lost before the end. -/
  | broken
  /-- The end did not come in time. -/
  | timedOut
deriving DecidableEq, Inhabited

instance : Coe String ReplyBody := ⟨.whole⟩

namespace ReplyBody

/-- The text of a body, or why there is none. -/
def text : ReplyBody → Except SourceError String
  | whole text => .ok text
  | broken => .error (.api "error decoding response body")
  | timedOut => .error .timeout

/-- The text of a body; what did not come whole counts for nothing. -/
def textOrNothing : ReplyBody → String
  | whole text => text
  | _ => ""

end ReplyBody

/-- An answer of a server. -/
structure Reply where
  status : Nat
  /-- The path of the address that answered. -/
  path : String
  body : ReplyBody
deriving Inhabited

/-- Why there is no answer. -/
inductive TransportError where
  /-- The address cannot be read. -/
  | invalidUrl
  /-- The address leads to no server of this kind. -/
  | unsupportedUrl (url : String)
  /-- Nobody listens at the address. -/
  | refused (url : String)
  /-- The connection was lost. -/
  | broken (url : String)
  | timedOut
deriving DecidableEq, Inhabited

/-- The failure of a source that has no answer. -/
def TransportError.failure : TransportError → SourceError
  | invalidUrl => .api "builder error"
  | unsupportedUrl url => .api ("builder error for url (" ++ url ++ ")")
  | refused url => .connectionFailed ("error sending request for url (" ++ url ++ ")")
  | broken url => .api ("error sending request for url (" ++ url ++ ")")
  | timedOut => .timeout

/-! ## Dialogs -/

/-- A client that may send requests before it is done. -/
inductive Dialog (α : Type) where
  | done (a : α)
  | ask (request : Outgoing) (next : Except TransportError Reply → Dialog α)

namespace Dialog

variable {α β : Type}

/-- One dialog after another. -/
def bind (d : Dialog α) (f : α → Dialog β) : Dialog β :=
  match d with
  | done a => f a
  | ask request next => ask request fun reply => (next reply).bind f

instance : Monad Dialog where
  pure := done
  bind := bind

/-- Lead a dialog with a server that has some state. -/
def lead {ω : Type} (serve : ω → Outgoing → Except TransportError Reply × ω) :
    Dialog α → ω → α × ω
  | done a, w => (a, w)
  | ask request next, w => lead serve (next (serve w request).1) (serve w request).2

end Dialog

/-! ## Sessions -/

/-- A dialog that can fail and has a state of its own, which outlives a failure. -/
abbrev Session (σ α : Type) := ExceptT SourceError (StateT σ Dialog) α

namespace Session

variable {σ α : Type}

/-- Send a request. -/
def send (request : Outgoing) : Session σ Reply :=
  ExceptT.mk fun s => .ask request fun reply =>
    .done (match reply with
      | .ok r => .ok r
      | .error e => .error e.failure, s)

/-- The outcome of a session, whatever it is. -/
def outcome (x : Session σ α) : Session σ (Except SourceError α) :=
  ExceptT.mk fun s => (x.run s).bind fun r => .done (.ok r.1, r.2)

/-- Lead a session with a server that has some state. -/
def lead {ω : Type} (serve : ω → Outgoing → Except TransportError Reply × ω)
    (x : Session σ α) (s : σ) (w : ω) : Except SourceError α × σ × ω :=
  let ((result, s), w) := Dialog.lead serve (x.run s) w
  (result, s, w)

end Session

end SeedCleanup

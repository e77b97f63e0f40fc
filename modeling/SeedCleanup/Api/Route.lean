import SeedCleanup.Inventory.Codec
import SeedCleanup.Inventory.Request
import SeedCleanup.Net.Percent

/-!
# Routes

Which request of the web asks for what. A path that is known answers to some methods only, and the
values in a path or a query must be readable.
-/

namespace SeedCleanup.Api

open SeedCleanup.Text

/-- What a request of the web asks for. -/
inductive Endpoint where
  | health
  | config
  | inventory (request : Request)
deriving DecidableEq, Inhabited

/-- Why a request of the web asks for nothing. -/
inductive Refusal where
  | badRequest
  | notFound
  | methodNotAllowed
deriving DecidableEq, Inhabited

/-- The status of a refusal. -/
def Refusal.status : Refusal → Nat
  | badRequest => 400
  | notFound => 404
  | methodNotAllowed => 405

/-! ## Queries -/

/-- The value under a name in a query, if there is one. A name must not be given twice. -/
def parameter (name : String) (pairs : List (String × String)) :
    Except Refusal (Option String) :=
  match pairs.filter (·.1 == name) with
  | [] => .ok none
  | [p] => .ok (some p.2)
  | _ => .error .badRequest

/-- Reads a value of a query. -/
def readParameter {α : Type} (decode : String → Option α) (usual : α) :
    Option String → Except Refusal α
  | none => .ok usual
  | some s =>
    match decode s with
    | some a => .ok a
    | none => .error .badRequest

/-- The listing that a query asks for. -/
def listing (query : List Char) : Except Refusal Request := do
  let pairs := Percent.formPairs query
  let page ← parameter "page" pairs
  let key ← parameter "sort_key" pairs
  let order ← parameter "sort_order" pairs
  let page ← readParameter (fun s => unsigned64? s.toList) 1 page
  let order ← readParameter SortOrder.ofWord? .ascending order
  return .list page ⟨(key.map SortKey.ofWord).getD .name, order⟩

/-! ## Paths -/

/-- Reads a part of a path. -/
def pathValue (part : List Char) : Except Refusal String :=
  match decodeUtf8? (Percent.decode part) with
  | some s => .ok (String.ofList s)
  | none => .error .badRequest

/-- Whether a method only reads. -/
def isRead (method : String) : Bool := method == "GET" || method == "HEAD"

/-- What a request asks for, given the parts of its path below the root of the interface. -/
def endpoint (method : String) (parts : List (List Char)) (query : List Char) :
    Except Refusal Endpoint :=
  match parts.map String.ofList with
  | ["health"] => if isRead method then .ok .health else .error .methodNotAllowed
  | ["config"] => if isRead method then .ok .config else .error .methodNotAllowed
  | ["media"] =>
    if isRead method then (listing query).map .inventory else .error .methodNotAllowed
  | ["media", "refresh"] =>
    if method = "POST" then .ok (.inventory .refresh) else .error .methodNotAllowed
  | ["media", id] =>
    if id.isEmpty then .error .notFound
    else if isRead method then (pathValue id.toList).map fun id => .inventory (.expand id)
    else if method = "DELETE" then (pathValue id.toList).map fun id => .inventory (.delete id)
    else .error .methodNotAllowed
  | _ => .error .notFound

/-- An address without the scheme and the host that it may start with. -/
def withoutOrigin (address : List Char) : List Char :=
  match (afterStart? "http://".toList address).or (afterStart? "https://".toList address) with
  | some rest => rest.dropWhile fun c => c != '/' && c != '?'
  | none => address

/-- What a request with an address asks for. -/
def route (method address : String) : Except Refusal Endpoint :=
  let s := withoutOrigin (address.toList.takeWhile (· != '#'))
  let (path, query) := (cutFirst? '?' s).getD (s, [])
  match afterStart? "/api/v1/".toList path with
  | some rest => endpoint method (splitOnChar '/' rest) query
  | none => .error .notFound

end SeedCleanup.Api

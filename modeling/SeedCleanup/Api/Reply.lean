import SeedCleanup.Api.Route
import SeedCleanup.Config.Codec

/-!
# Answers to requests of the web

The status and the document of every answer.
-/

namespace SeedCleanup.Api

/-- The version of the program. -/
def version : String := "0.1.0"

/-- What goes with an answer. -/
inductive Content where
  | none
  | document (j : Json)
  | failure (e : InventoryError)

/-- An answer. -/
structure Reply where
  status : Nat
  content : Content := .none

/-- The status of a failure. -/
def failureStatus : InventoryError → Nat
  | .malformedId _ => 400
  | .mediaNotFound _ => 404
  | _ => 500

/-- Whether the program is well, as a document. -/
def health (dryRun : Bool) (items : Option (List Item)) : Json :=
  .obj [("status", .str "ok"), ("version", .str version), ("dry_run", .bool dryRun),
    ("inventory", .obj [("cached", .bool items.isSome),
      ("titles", .ofInt ((items.map List.length).getD 0))])]

/-- The answer that tells the outcome of a request to the inventory. -/
def replyTo : Except InventoryError Answer → Reply
  | .ok .done => ⟨204, .none⟩
  | .ok (.page p) => ⟨200, .document p.toJson⟩
  | .ok (.row r) => ⟨200, .document r.toJson⟩
  | .error e => ⟨failureStatus e, .failure e⟩

section

variable {μ τ ρ : Type} (b : Backends μ τ ρ) (now : Instant) (c : Config)

/-- The answer to what a request asks for. -/
def reply (e : Endpoint) (s : Inventory μ τ ρ) : Reply × Inventory μ τ ρ :=
  match e with
  | .health => (⟨200, .document (health c.dryRun s.items)⟩, s)
  | .config => (⟨200, .document c.redacted⟩, s)
  | .inventory request =>
    let (result, s) := s.perform b now request
    (replyTo result, s)

/-- The answer to a request of the web. -/
def handle (method address : String) (s : Inventory μ τ ρ) : Reply × Inventory μ τ ρ :=
  match route method address with
  | .error refusal => (⟨refusal.status, .none⟩, s)
  | .ok e => reply b now c e s

end

end SeedCleanup.Api

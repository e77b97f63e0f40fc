import SeedCleanup.Source.Manager

/-!
# Stand-in managers

A manager without backends: a refresh takes over a list that was set beforehand. It counts its
refreshes, writes down what it deleted, and can be told to fail once or to be slow.
-/

namespace SeedCleanup

/-- The state of a stand-in manager. -/
structure StandIn (β δ : Type) where
  /-- What the next refresh takes over. -/
  backend : List β := []
  /-- What the last refresh or load left. -/
  entries : List β := []
  /-- The deletions that succeeded, the first one first. -/
  deleted : List δ := []
  refreshes : Nat := 0
  /-- What the next operation answers instead. -/
  nextError : Option SourceError := none
  /-- How long a refresh takes. -/
  delayMillis : Nat := 0
deriving Inhabited

/-- How a stand-in manager treats what it holds. -/
structure StandInRules (β δ : Type) where
  identity : String
  /-- What is left after a deletion, or why there is nothing to delete. -/
  without : δ → List β → Except SourceError (List β)
  encode : List β → String
  decode : String → Option (List β)

namespace StandIn

variable {β δ : Type}

/-- The error that is due, once. -/
def takeError (s : StandIn β δ) : Except SourceError Unit × StandIn β δ :=
  match s.nextError with
  | none => (.ok (), s)
  | some e => (.error e, { s with nextError := none })

/-- Take over what was set. -/
def refresh (s : StandIn β δ) : Except SourceError Unit × StandIn β δ :=
  match takeError { s with refreshes := s.refreshes + 1 } with
  | (.error e, s) => (.error e, s)
  | (.ok (), s) => (.ok (), { s with entries := s.backend })

/-- What the last refresh or load left. -/
def contents (s : StandIn β δ) : Except SourceError (List β) × StandIn β δ :=
  match s.takeError with
  | (.error e, s) => (.error e, s)
  | (.ok (), s) => (.ok s.entries, s)

section

variable (rules : StandInRules β δ)

/-- Delete what a request names. -/
def delete (request : δ) (s : StandIn β δ) : Except SourceError Unit × StandIn β δ :=
  match s.takeError with
  | (.error e, s) => (.error e, s)
  | (.ok (), s) =>
    match rules.without request s.entries with
    | .error e => (.error e, s)
    | .ok entries => (.ok (), { s with entries, deleted := s.deleted ++ [request] })

/-- Replace what is held by a saved list. -/
def load (data : String) (s : StandIn β δ) : Except SourceError Unit × StandIn β δ :=
  match rules.decode data with
  | none => (.error (.serialization "the snapshot cannot be read"), s)
  | some entries => (.ok (), { s with entries })

/-- The operations of a stand-in manager. -/
def manager : Manager (StandIn β δ) β δ where
  identity := rules.identity
  refresh := ⟨StandIn.delayMillis, refresh, id⟩
  save s := (.ok (rules.encode s.entries), s)
  load := load rules
  contents := .immediate contents
  delete request := .immediate (delete rules request)

end

end StandIn

end SeedCleanup

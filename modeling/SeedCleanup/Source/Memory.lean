import SeedCleanup.Source.Manager

/-!
# Sources in memory

A source that reports a fixed list and writes down every call. It can be told to fail, until it is
told otherwise.
-/

namespace SeedCleanup

/-- A call of a source. -/
inductive SourceCall (δ : Type) where
  | fetch
  | delete (request : δ)
deriving DecidableEq, Inhabited

/-- A source that holds what it reports. -/
structure MemorySource (β δ : Type) where
  held : List β
  /-- What every fetch answers instead. -/
  fetchError : Option SourceError := none
  /-- What every deletion answers instead. -/
  deleteError : Option SourceError := none
  /-- The calls so far, the first one first. -/
  calls : List (SourceCall δ) := []
deriving Inhabited

namespace MemorySource

variable {β δ : Type}

/-- Write down a call. -/
def noted (s : MemorySource β δ) (call : SourceCall δ) : MemorySource β δ :=
  { s with calls := s.calls ++ [call] }

/-- Report what is held. -/
def fetch (s : MemorySource β δ) : Except SourceError (List β) × MemorySource β δ :=
  (match s.fetchError with
    | none => .ok s.held
    | some e => .error e, s.noted .fetch)

/-- Take note of a deletion; what is held stays. -/
def delete (request : δ) (s : MemorySource β δ) : Except SourceError Unit × MemorySource β δ :=
  (match s.deleteError with
    | none => .ok ()
    | some e => .error e, s.noted (.delete request))

/-- The operations of a source in memory. -/
def source : Source (MemorySource β δ) β δ where
  fetch := .immediate fetch
  delete request := .immediate (delete request)

end MemorySource

end SeedCleanup

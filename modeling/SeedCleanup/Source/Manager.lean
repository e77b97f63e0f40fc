import SeedCleanup.Source.Error

/-!
# Sources and managers

A source is one backend: it reports what it holds and deletes on demand. A manager speaks for all
backends of one side. It keeps a copy of what they reported, and the copy can be saved and restored.
Both are described by what their operations answer and which state they leave behind.
-/

namespace SeedCleanup

/-- An operation of a backend with some state. It takes time, and a caller may stop waiting. -/
structure Call (σ α : Type) where
  /-- How many milliseconds pass before the answer. -/
  millis : σ → Nat
  /-- The answer, and the state that goes with it. -/
  run : σ → Except SourceError α × σ
  /-- The state that is left behind when the caller stopped waiting. -/
  abandon : σ → σ

/-- An operation that is answered at once. -/
def Call.immediate {σ α : Type} (run : σ → Except SourceError α × σ) : Call σ α :=
  ⟨fun _ => 0, run, id⟩

/-- A backend that reports values of type `β` and is told by a `δ` what to delete. -/
structure Source (σ β δ : Type) where
  fetch : Call σ (List β)
  delete : δ → Call σ Unit

/-- A manager that keeps a copy of what its backends reported. -/
structure Manager (μ β δ : Type) where
  /-- The name under which the manager's copy is saved. -/
  identity : String
  /-- Ask the backends for what they hold. -/
  refresh : Call μ Unit
  /-- The saved form of the copy. -/
  save : μ → Except SourceError String × μ
  /-- Replace the copy by a saved one. -/
  load : String → μ → Except SourceError Unit × μ
  /-- The copy. -/
  contents : Call μ (List β)
  delete : δ → Call μ Unit

end SeedCleanup

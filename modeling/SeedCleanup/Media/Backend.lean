import SeedCleanup.Media.Arr
import SeedCleanup.Net.Client
import SeedCleanup.Source.Memory

/-!
# Backends of media libraries

A library is reached through its server or held in memory.
-/

namespace SeedCleanup

/-- A library in memory. -/
abbrev MemoryLibrary := MemorySource MediaEntry FileDeletion

/-- A backend with the titles of one kind. -/
inductive MediaBackend where
  | memory (library : MemoryLibrary)
  | server (a : ArrServer) (wire : Wire)

namespace MediaBackend

/-- An operation of either backend. -/
def act {α : Type} (memory : Call MemoryLibrary α) (server : ArrServer → Session Unit α) :
    Call MediaBackend α where
  millis s := match s with
    | .memory m => memory.millis m
    | .server a w => (server a).call.millis ((), w)
  run s := match s with
    | .memory m => let (r, m) := memory.run m; (r, .memory m)
    | .server a w => let (r, _, w) := (server a).call.run ((), w); (r, .server a w)
  abandon s := match s with
    | .memory m => .memory (memory.abandon m)
    | .server a w => .server a ((server a).call.abandon ((), w)).2

/-- The operations of a backend. -/
def source : MediaSource MediaBackend where
  fetch := act MemorySource.source.fetch ArrServer.titles
  delete d := act (MemorySource.source.delete d) fun a => a.deleteFiles d.ids d.stopMonitoring

end MediaBackend

end SeedCleanup

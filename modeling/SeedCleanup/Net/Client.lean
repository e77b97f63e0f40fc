import SeedCleanup.Net.Wire
import SeedCleanup.Source.Manager

/-!
# Clients on a wire

A session becomes an operation of a backend when it is led with a server. Its state is that of the
session and of the wire.
-/

namespace SeedCleanup

/-- The operation that a session is when a scripted server answers it. What was sent stays sent when
nobody waits for the answer. -/
def Session.call {σ α : Type} (x : Session σ α) : Call (σ × Wire) α :=
  let run (s : σ × Wire) : Except SourceError α × σ × Wire := x.lead Wire.serve s.1 s.2
  { millis := fun s => (run s).2.2.elapsed - s.2.elapsed
    run := run
    abandon := fun s => (run s).2 }

end SeedCleanup

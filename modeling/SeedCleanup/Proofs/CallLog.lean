import SeedCleanup.Proofs.CallTheorems

/-!
# Managers that write down their calls

A recorded manager answers and changes as before, and appends each call to a log, also when the
caller stops waiting for the answer. So the logs tell which calls an operation made.
-/

namespace SeedCleanup

/-- A call of an operation of a manager. -/
inductive ManagerCall (δ : Type) where
  | refresh
  | save
  | load (data : String)
  | contents
  | delete (d : δ)
deriving DecidableEq

/-- A state of a manager with the calls that were made so far. -/
structure Logged (σ δ : Type) where
  state : σ
  calls : List (ManagerCall δ)

section

variable {σ α β δ : Type}

/-- Write an operation into the log that it is part of. -/
def recordedRun (call : ManagerCall δ) (run : σ → Except SourceError α × σ) (s : Logged σ δ) :
    Except SourceError α × Logged σ δ :=
  let (answer, state) := run s.state
  (answer, ⟨state, s.calls ++ [call]⟩)

/-- Write a call into the log, whether it is answered or abandoned. -/
def Call.recorded (call : ManagerCall δ) (c : Call σ α) : Call (Logged σ δ) α where
  millis s := c.millis s.state
  run := recordedRun call c.run
  abandon s := ⟨c.abandon s.state, s.calls ++ [call]⟩

/-- A manager that writes down its calls. -/
def Manager.recorded (m : Manager σ β δ) : Manager (Logged σ δ) β δ where
  identity := m.identity
  refresh := m.refresh.recorded .refresh
  save := recordedRun .save m.save
  load data := recordedRun (.load data) (m.load data)
  contents := m.contents.recorded .contents
  delete d := (m.delete d).recorded (.delete d)

/-- Waiting for a recorded call is waiting for the call, and one more call in the log. -/
theorem within_recorded (call : ManagerCall δ) (c : Call σ α) (limit : Option Nat) (stage : String)
    (s : Logged σ δ) :
    (c.recorded call).within limit stage s
      = ((c.within limit stage s.state).1,
          ⟨(c.within limit stage s.state).2, s.calls ++ [call]⟩) :=
  Call.within_on (fun _ state => (⟨state, s.calls ++ [call]⟩ : Logged σ δ)) rfl rfl rfl limit stage

end

variable {μ τ ρ : Type}

/-- Backends whose managers write down their calls. -/
def Backends.recorded (b : Backends μ τ ρ) :
    Backends (Logged μ FileDeletion) (Logged τ TorrentKey) ρ :=
  ⟨b.media.recorded, b.torrents.recorded, b.trackers, b.habits⟩

/-- An inventory with logs of the calls to its managers. -/
def Inventory.logged (s : Inventory μ τ ρ) (media : List (ManagerCall FileDeletion))
    (torrents : List (ManagerCall TorrentKey)) :
    Inventory (Logged μ FileDeletion) (Logged τ TorrentKey) ρ :=
  ⟨⟨s.media, media⟩, ⟨s.torrents, torrents⟩, s.trackers, s.folder, s.items⟩

end SeedCleanup

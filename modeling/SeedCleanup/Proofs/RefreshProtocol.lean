import SeedCleanup.Proofs.CallLog
import SeedCleanup.Proofs.RefreshTheorems

/-!
# The stages of a refresh

The copy of each manager is renewed in stages, up to the first that fails (`GoesThrough`), whatever
happens to the other side. Then what both hold is fetched, linked and evaluated title by title. Only
a refresh all of whose stages succeed publishes items; any other one leaves the items as they were
and names what failed (`Refreshing`).
-/

namespace SeedCleanup

/-! ## Renewing a copy in stages -/

/-- A stage of renewing a manager's copy. -/
inductive RenewalStage where
  | ask
  | makeFolder
  | save
  | write
  | read
  | load

/-- The stages of a renewal. -/
def RefreshMode.stages : RefreshMode → List RenewalStage
  | .live false => [.ask]
  | .live true => [.ask, .makeFolder, .save, .write]
  | .replay => [.read, .load]

/-- A manager while its copy is renewed, with the folder and the text that was saved or read. -/
structure Renewing (μ : Type) where
  copy : μ
  folder : SnapshotFolder
  text : String := ""

namespace RenewalStage

section

variable {μ β δ : Type} (m : Manager μ β δ) (h : Habits)

/-- Write a file into the folder, which an earlier stage has made. -/
def writeInto (name data : String) (folder : SnapshotFolder) : Except FileError SnapshotFolder :=
  match folder.make with
  | .error _ => .error .notDirectory
  | .ok files => (SnapshotFolder.write files name data).map .present

/-- Carry out a stage. -/
def run (stage : RenewalStage) (r : Renewing μ) : Except InventoryError Unit × Renewing μ :=
  match stage with
  | ask =>
    let (answer, copy) := m.refresh.within h.limit ("refresh " ++ m.identity) r.copy
    (answer, { r with copy })
  | makeFolder =>
    match r.folder.make with
    | .error e => (.error (.cacheFile h.dir e), r)
    | .ok files => (.ok (), { r with folder := .present files })
  | save =>
    match m.save r.copy with
    | (.error e, copy) =>
      (.error (.source ("save " ++ m.identity ++ " snapshot") e), { r with copy })
    | (.ok text, copy) => (.ok (), { r with copy, text })
  | write =>
    match writeInto (snapshotName m.identity) r.text r.folder with
    | .error e => (.error (.cacheFile (snapshotPath h.dir m.identity) e), r)
    | .ok folder => (.ok (), { r with folder })
  | read =>
    match r.folder.read (snapshotName m.identity) with
    | .error e => (.error (.cacheFile (snapshotPath h.dir m.identity) e), r)
    | .ok text => (.ok (), { r with text })
  | load =>
    match m.load r.text r.copy with
    | (.error e, copy) =>
      (.error (.source ("load " ++ m.identity ++ " snapshot") e), { r with copy })
    | (.ok (), copy) => (.ok (), { r with copy })

/-- The calls to the manager that a stage makes. -/
def calls (stage : RenewalStage) (r : Renewing μ) : List (ManagerCall δ) :=
  match stage with
  | ask => [.refresh]
  | save => [.save]
  | load => [.load r.text]
  | makeFolder | write | read => []

end

end RenewalStage

section

variable {μ β δ : Type} (m : Manager μ β δ) (h : Habits)

/-- Stages are gone through in order, up to the first that fails. -/
inductive GoesThrough : List RenewalStage → Renewing μ → List (ManagerCall δ) →
    Except InventoryError Unit → Renewing μ → Prop
  | finished (r : Renewing μ) : GoesThrough [] r [] (.ok ()) r
  | next {stage : RenewalStage} {rest : List RenewalStage} {r r₁ r₂ : Renewing μ}
      {calls : List (ManagerCall δ)} {result : Except InventoryError Unit}
      (hrun : stage.run m h r = (.ok (), r₁)) (hrest : GoesThrough rest r₁ calls result r₂) :
      GoesThrough (stage :: rest) r (stage.calls r ++ calls) result r₂
  | stopped {stage : RenewalStage} {rest : List RenewalStage} {r r₁ : Renewing μ}
      {e : InventoryError} (hrun : stage.run m h r = (.error e, r₁)) :
      GoesThrough (stage :: rest) r (stage.calls r) (.error e) r₁

variable {m h}

/-- A manager whose copy is renewed, with a log of its calls. -/
def Renewing.logged (r : Renewing μ) (calls : List (ManagerCall δ)) : Renewing (Logged μ δ) :=
  ⟨⟨r.copy, calls⟩, r.folder, r.text⟩

/-- A recorded manager notes down the calls of a stage. -/
theorem RenewalStage.run_recorded (stage : RenewalStage) (r : Renewing μ)
    (calls : List (ManagerCall δ)) :
    stage.run m.recorded h (r.logged calls)
      = ((stage.run m h r).1, (stage.run m h r).2.logged (calls ++ stage.calls r)) := by
  cases stage with
  | ask =>
    have hcall : m.recorded.refresh = m.refresh.recorded .refresh := rfl
    have hname : m.recorded.identity = m.identity := rfl
    simp only [run, Renewing.logged, RenewalStage.calls, hcall, hname, within_recorded]
  | makeFolder =>
    simp only [run, Renewing.logged, RenewalStage.calls, List.append_nil]
    cases r.folder.make <;> rfl
  | save =>
    rcases hsave : m.save r.copy with ⟨e | text, copy⟩
    · simp only [run, Renewing.logged, RenewalStage.calls, Manager.recorded, recordedRun, hsave]
    · simp only [run, Renewing.logged, RenewalStage.calls, Manager.recorded, recordedRun, hsave]
  | write =>
    have hname : m.recorded.identity = m.identity := rfl
    simp only [run, Renewing.logged, RenewalStage.calls, List.append_nil, hname]
    cases RenewalStage.writeInto (snapshotName m.identity) r.text r.folder <;> rfl
  | read =>
    have hname : m.recorded.identity = m.identity := rfl
    simp only [run, Renewing.logged, RenewalStage.calls, List.append_nil, hname]
    cases r.folder.read (snapshotName m.identity) <;> rfl
  | load =>
    rcases hload : m.load r.text r.copy with ⟨e | _, copy⟩
    · simp only [run, Renewing.logged, RenewalStage.calls, Manager.recorded, recordedRun, hload]
    · simp only [run, Renewing.logged, RenewalStage.calls, Manager.recorded, recordedRun, hload]

namespace GoesThrough

variable {stages : List RenewalStage} {r r' : Renewing μ} {calls : List (ManagerCall δ)}
  {result : Except InventoryError Unit}

/-- A recorded manager goes through the stages in the same way, and its log shows the calls. -/
theorem recorded (hstages : GoesThrough m h stages r calls result r')
    (log : List (ManagerCall δ)) :
    GoesThrough m.recorded h stages (r.logged log) calls result (r'.logged (log ++ calls)) := by
  induction hstages generalizing log with
  | finished r =>
    rw [List.append_nil]
    exact .finished _
  | @next stage rest r r₁ r₂ calls result hrun hrest ih =>
    have hrecorded : stage.run m.recorded h (r.logged log) = _ := stage.run_recorded r log
    rw [hrun] at hrecorded
    rw [← List.append_assoc]
    exact .next hrecorded (ih _)
  | @stopped stage rest r r₁ e hrun =>
    have hrecorded : stage.run m.recorded h (r.logged log) = _ := stage.run_recorded r log
    rw [hrun] at hrecorded
    exact .stopped hrecorded

/-- A renewal does not ask for what the manager holds. -/
theorem contents_notMem (hstages : GoesThrough m h stages r calls result r') :
    .contents ∉ calls := by
  have hstage (stage : RenewalStage) (r : Renewing μ) :
      (.contents : ManagerCall δ) ∉ stage.calls r := by
    cases stage <;> simp [RenewalStage.calls]
  induction hstages with
  | finished r => exact List.not_mem_nil
  | next _ _ ih => exact fun h => (List.mem_append.1 h).elim (hstage _ _) ih
  | stopped _ => exact hstage _ _

end GoesThrough

variable (m h)

theorem exists_goesThrough (stages : List RenewalStage) (r : Renewing μ) :
    ∃ calls result r', GoesThrough m h stages r calls result r' := by
  induction stages generalizing r with
  | nil => exact ⟨[], .ok (), r, .finished r⟩
  | cons stage rest ih =>
    rcases hrun : stage.run m h r with ⟨e | ⟨⟩, r₁⟩
    · exact ⟨stage.calls r, .error e, r₁, .stopped hrun⟩
    · obtain ⟨calls, result, r', hrest⟩ := ih r₁
      exact ⟨stage.calls r ++ calls, result, r', .next hrun hrest⟩

/-- Carry out stages in order, up to the first that fails. -/
def runStages : List RenewalStage → Renewing μ → Except InventoryError Unit × Renewing μ
  | [], r => (.ok (), r)
  | stage :: rest, r =>
    match stage.run m h r with
    | (.error e, r) => (.error e, r)
    | (.ok (), r) => runStages rest r

theorem Manager.restore_eq_runStages (folder : SnapshotFolder) (s : μ) :
    ((m.restore h.dir folder s).1, (m.restore h.dir folder s).2, folder)
      = let (result, r) := runStages m h [.read, .load] ⟨s, folder, ""⟩
        (result, r.copy, r.folder) := by
  cases hread : folder.read (snapshotName m.identity) with
  | error e => simp only [Manager.restore, runStages, RenewalStage.run, hread]
  | ok text =>
    rcases hload : m.load text s with ⟨e | ⟨⟩, copy⟩
    · simp only [Manager.restore, runStages, RenewalStage.run, hread, hload]
    · simp only [Manager.restore, runStages, RenewalStage.run, hread, hload]

theorem Manager.persist_eq_runStages (folder : SnapshotFolder) (s : μ) :
    m.persist h.dir folder s
      = let (result, r) := runStages m h [.makeFolder, .save, .write] ⟨s, folder, ""⟩
        (result, r.copy, r.folder) := by
  cases hmake : folder.make with
  | error e => simp only [Manager.persist, runStages, RenewalStage.run, hmake]
  | ok files =>
    rcases hsave : m.save s with ⟨e | text, copy⟩
    · simp only [Manager.persist, runStages, RenewalStage.run, hmake, hsave]
    · have hmade : (SnapshotFolder.present files).make = .ok files := rfl
      simp only [Manager.persist, runStages, RenewalStage.run, hmake, hsave,
        RenewalStage.writeInto, hmade]
      cases SnapshotFolder.write files (snapshotName m.identity) text <;> rfl

/-- Renewing a copy is carrying out the stages of the mode. -/
theorem Manager.renew_eq_runStages (folder : SnapshotFolder) (s : μ) :
    m.renew h folder s
      = let (result, r) := runStages m h h.mode.stages ⟨s, folder, ""⟩
        (result, r.copy, r.folder) := by
  cases hmode : h.mode with
  | replay =>
    simp only [Manager.renew, hmode]
    exact m.restore_eq_runStages h folder s
  | live persist =>
    rcases hask : m.refresh.within h.limit ("refresh " ++ m.identity) s with ⟨e | ⟨⟩, copy⟩
    · cases persist <;>
        simp only [Manager.renew, hmode, RefreshMode.stages, runStages, RenewalStage.run, hask]
    · cases persist with
      | false =>
        simp only [Manager.renew, hmode, RefreshMode.stages, runStages, RenewalStage.run, hask,
          Bool.false_eq_true, if_false]
      | true =>
        have hpersist := m.persist_eq_runStages h folder copy
        simp only [Manager.renew, hmode, hask, if_true, hpersist]
        simp only [RefreshMode.stages, runStages, RenewalStage.run, hask]

variable {m h}

theorem GoesThrough.runStages_eq {stages : List RenewalStage} {r r' : Renewing μ}
    {calls : List (ManagerCall δ)} {result : Except InventoryError Unit}
    (hstages : GoesThrough m h stages r calls result r') :
    runStages m h stages r = (result, r') := by
  induction hstages with
  | finished r => rfl
  | next hrun _ ih => simp only [runStages, hrun, ih]
  | stopped hrun => simp only [runStages, hrun]

theorem Manager.renew_of_goesThrough {folder : SnapshotFolder} {s : μ} {r : Renewing μ}
    {calls : List (ManagerCall δ)} {result : Except InventoryError Unit}
    (hstages : GoesThrough m h h.mode.stages ⟨s, folder, ""⟩ calls result r) :
    m.renew h folder s = (result, r.copy, r.folder) := by
  rw [Manager.renew_eq_runStages, hstages.runStages_eq]

end

/-! ## Evaluating title by title -/

namespace Item

variable {σ : Type} (r : TrackerResolver σ) (now : Instant)

/-- Titles are evaluated in order, up to the first that cannot be evaluated; each gives an item. -/
inductive Evaluates : List LinkedTitle → σ → Except InventoryError (List Item) → σ → Prop
  | finished (s : σ) : Evaluates [] s (.ok []) s
  | next {media : LinkedTitle} {rest : List LinkedTitle} {report : Report} {items : List Item}
      {s s₁ s₂ : σ} (hmedia : media.evaluate r now s = (.ok report, s₁))
      (hrest : Evaluates rest s₁ (.ok items) s₂) :
      Evaluates (media :: rest) s (.ok (.of media report :: items)) s₂
  | later {media : LinkedTitle} {rest : List LinkedTitle} {report : Report} {e : InventoryError}
      {s s₁ s₂ : σ} (hmedia : media.evaluate r now s = (.ok report, s₁))
      (hrest : Evaluates rest s₁ (.error e) s₂) : Evaluates (media :: rest) s (.error e) s₂
  | stopped {media : LinkedTitle} {rest : List LinkedTitle} {e : InventoryError} {s s₁ : σ}
      (hmedia : media.evaluate r now s = (.error e, s₁)) :
      Evaluates (media :: rest) s (.error e) s₁

variable {r now}

theorem Evaluates.ofLinked_eq {linked : List LinkedTitle} {s s' : σ}
    {result : Except InventoryError (List Item)} (h : Evaluates r now linked s result s') :
    ofLinked r now linked s = (result, s') := by
  induction h with
  | finished s => rfl
  | next hmedia _ ih => simp only [ofLinked, hmedia, ih]
  | later hmedia _ ih => simp only [ofLinked, hmedia, ih]
  | stopped hmedia => simp only [ofLinked, hmedia]

variable (r now)

theorem exists_evaluates (linked : List LinkedTitle) (s : σ) :
    ∃ result s', Evaluates r now linked s result s' := by
  induction linked generalizing s with
  | nil => exact ⟨.ok [], s, .finished s⟩
  | cons media rest ih =>
    rcases hmedia : media.evaluate r now s with ⟨e | report, s₁⟩
    · exact ⟨.error e, s₁, .stopped hmedia⟩
    · obtain ⟨e | items, s₂, hrest⟩ := ih s₁
      · exact ⟨.error e, s₂, .later hmedia hrest⟩
      · exact ⟨_, s₂, .next hmedia hrest⟩

end Item

/-! ## What a refresh does -/

section

variable {μ τ ρ : Type} (b : Backends μ τ ρ) (now : Instant) (s : Inventory μ τ ρ)

/-- Both sides go through the stages of a renewal, each to its own end. -/
inductive Renews : List (ManagerCall FileDeletion) → List (ManagerCall TorrentKey) →
    Except InventoryError Unit → Except InventoryError Unit → Inventory μ τ ρ → Prop
  | intro {mediaCalls : List (ManagerCall FileDeletion)}
      {torrentCalls : List (ManagerCall TorrentKey)} {media torrents : Except InventoryError Unit}
      {m : Renewing μ} {t : Renewing τ}
      (htorrents : GoesThrough b.torrents b.habits b.habits.mode.stages ⟨s.torrents, s.folder, ""⟩
        torrentCalls torrents t)
      (hmedia : GoesThrough b.media b.habits b.habits.mode.stages ⟨s.media, t.folder, ""⟩
        mediaCalls media m) :
      Renews mediaCalls torrentCalls media torrents
        { s with media := m.copy, torrents := t.copy, folder := m.folder }

/-- The failures of the sides, each under the name of its manager, that of the media first. -/
inductive Failures : Except InventoryError Unit → Except InventoryError Unit →
    List (String × InventoryError) → Prop
  | media (e : InventoryError) : Failures (.error e) (.ok ()) [(b.media.identity, e)]
  | torrents (e : InventoryError) : Failures (.ok ()) (.error e) [(b.torrents.identity, e)]
  | both (e e' : InventoryError) :
      Failures (.error e) (.error e') [(b.media.identity, e), (b.torrents.identity, e')]

/-- Every stage of a refresh succeeds: both copies are renewed, what both managers hold is fetched,
and every linked title is evaluated. -/
inductive Succeeds : List (ManagerCall FileDeletion) → List (ManagerCall TorrentKey) →
    List Item → Inventory μ τ ρ → Prop
  | intro {mediaCalls : List (ManagerCall FileDeletion)}
      {torrentCalls : List (ManagerCall TorrentKey)} {s₁ : Inventory μ τ ρ}
      {held : List MediaEntry} {found : List Torrent} {items : List Item} {media : μ}
      {torrents : τ} {trackers : ρ}
      (hsides : Renews b s mediaCalls torrentCalls (.ok ()) (.ok ()) s₁)
      (hheld : b.media.contents.within b.habits.limit "get media" s₁.media = (.ok held, media))
      (hfound : b.torrents.contents.within b.habits.limit "get torrents" s₁.torrents
        = (.ok found, torrents))
      (hitems : Item.Evaluates b.trackers now (linkMedia held found) s.trackers (.ok items)
        trackers) :
      Succeeds (mediaCalls ++ [.contents]) (torrentCalls ++ [.contents]) items
        { s₁ with media, torrents, trackers, items := some items }

/-- What a refresh does: the calls to the managers, its answer and the inventory after it. -/
inductive Refreshing : List (ManagerCall FileDeletion) → List (ManagerCall TorrentKey) →
    Except InventoryError (List Item) → Inventory μ τ ρ → Prop
  | notRenewed {mediaCalls : List (ManagerCall FileDeletion)}
      {torrentCalls : List (ManagerCall TorrentKey)} {media torrents : Except InventoryError Unit}
      {failed : List (String × InventoryError)} {s₁ : Inventory μ τ ρ}
      (hsides : Renews b s mediaCalls torrentCalls media torrents s₁)
      (hfailed : Failures b media torrents failed)
      (hunasked : .contents ∉ mediaCalls ∧ .contents ∉ torrentCalls)
      (htrackers : s₁.trackers = s.trackers) :
      Refreshing mediaCalls torrentCalls (.error (.refresh failed)) s₁
  | noMedia {mediaCalls : List (ManagerCall FileDeletion)}
      {torrentCalls : List (ManagerCall TorrentKey)} {s₁ : Inventory μ τ ρ} {e : InventoryError}
      {media : μ} (hsides : Renews b s mediaCalls torrentCalls (.ok ()) (.ok ()) s₁)
      (hheld : b.media.contents.within b.habits.limit "get media" s₁.media = (.error e, media)) :
      Refreshing (mediaCalls ++ [.contents]) torrentCalls (.error e) { s₁ with media }
  | noTorrents {mediaCalls : List (ManagerCall FileDeletion)}
      {torrentCalls : List (ManagerCall TorrentKey)} {s₁ : Inventory μ τ ρ} {e : InventoryError}
      {held : List MediaEntry} {media : μ} {torrents : τ}
      (hsides : Renews b s mediaCalls torrentCalls (.ok ()) (.ok ()) s₁)
      (hheld : b.media.contents.within b.habits.limit "get media" s₁.media = (.ok held, media))
      (hfound : b.torrents.contents.within b.habits.limit "get torrents" s₁.torrents
        = (.error e, torrents)) :
      Refreshing (mediaCalls ++ [.contents]) (torrentCalls ++ [.contents]) (.error e)
        { s₁ with media, torrents }
  | notEvaluated {mediaCalls : List (ManagerCall FileDeletion)}
      {torrentCalls : List (ManagerCall TorrentKey)} {s₁ : Inventory μ τ ρ} {e : InventoryError}
      {held : List MediaEntry} {found : List Torrent} {media : μ} {torrents : τ} {trackers : ρ}
      (hsides : Renews b s mediaCalls torrentCalls (.ok ()) (.ok ()) s₁)
      (hheld : b.media.contents.within b.habits.limit "get media" s₁.media = (.ok held, media))
      (hfound : b.torrents.contents.within b.habits.limit "get torrents" s₁.torrents
        = (.ok found, torrents))
      (hitems : Item.Evaluates b.trackers now (linkMedia held found) s.trackers (.error e)
        trackers) :
      Refreshing (mediaCalls ++ [.contents]) (torrentCalls ++ [.contents]) (.error e)
        { s₁ with media, torrents, trackers }
  | published {mediaCalls : List (ManagerCall FileDeletion)}
      {torrentCalls : List (ManagerCall TorrentKey)} {items : List Item} {s' : Inventory μ τ ρ}
      (h : Succeeds b now s mediaCalls torrentCalls items s') :
      Refreshing mediaCalls torrentCalls (.ok items) s'

variable {b now s} {mediaCalls : List (ManagerCall FileDeletion)}
  {torrentCalls : List (ManagerCall TorrentKey)} {s' : Inventory μ τ ρ}

/-! ## Refreshing is going through the stages -/

namespace Renews

variable {media torrents : Except InventoryError Unit}

theorem frame (h : Renews b s mediaCalls torrentCalls media torrents s') :
    s'.items = s.items ∧ s'.trackers = s.trackers := by
  cases h
  exact ⟨rfl, rfl⟩

theorem contents_notMem (h : Renews b s mediaCalls torrentCalls media torrents s') :
    .contents ∉ mediaCalls ∧ .contents ∉ torrentCalls := by
  cases h with
  | intro htorrents hmedia => exact ⟨hmedia.contents_notMem, htorrents.contents_notMem⟩

theorem renew_eq (h : Renews b s mediaCalls torrentCalls media torrents s') :
    ∃ s₁, s.renewTorrents b = (torrents, s₁) ∧ s₁.renewMedia b = (media, s') := by
  cases h with
  | @intro m t htorrents hmedia =>
    refine ⟨{ s with torrents := t.copy, folder := t.folder }, ?_, ?_⟩
    · rw [Inventory.renewTorrents, Manager.renew_of_goesThrough htorrents]
    · rw [Inventory.renewMedia, Manager.renew_of_goesThrough hmedia]

theorem recorded (h : Renews b s mediaCalls torrentCalls media torrents s')
    (mediaLog : List (ManagerCall FileDeletion)) (torrentLog : List (ManagerCall TorrentKey)) :
    Renews b.recorded (s.logged mediaLog torrentLog) mediaCalls torrentCalls media torrents
      (s'.logged (mediaLog ++ mediaCalls) (torrentLog ++ torrentCalls)) := by
  cases h with
  | intro htorrents hmedia =>
    exact Renews.intro (b := b.recorded) (s := s.logged mediaLog torrentLog)
      (htorrents.recorded torrentLog) (hmedia.recorded mediaLog)

end Renews

theorem exists_renews (b : Backends μ τ ρ) (s : Inventory μ τ ρ) :
    ∃ mediaCalls torrentCalls media torrents s',
      Renews b s mediaCalls torrentCalls media torrents s' := by
  obtain ⟨torrentCalls, torrents, t, htorrents⟩ :=
    exists_goesThrough b.torrents b.habits b.habits.mode.stages ⟨s.torrents, s.folder, ""⟩
  obtain ⟨mediaCalls, media, m, hmedia⟩ :=
    exists_goesThrough b.media b.habits b.habits.mode.stages ⟨s.media, t.folder, ""⟩
  exact ⟨mediaCalls, torrentCalls, media, torrents, _, .intro htorrents hmedia⟩

/-- If a side fails, the refresh ends with its failures. -/
theorem Failures.refresh_eq {media torrents : Except InventoryError Unit}
    {failed : List (String × InventoryError)} (hfailed : Failures b media torrents failed)
    (h : Renews b s mediaCalls torrentCalls media torrents s') :
    s.refresh b now = (.error (.refresh failed), s') := by
  obtain ⟨s₁, htorrents, hmedia⟩ := h.renew_eq
  cases hfailed <;>
    simp only [Inventory.refresh, Inventory.finishRefresh, htorrents, hmedia, Inventory.failures,
      List.append_nil, List.nil_append, List.cons_append]

/-- If no side fails, the refresh goes on with what the managers hold. -/
theorem Renews.refresh_eq (h : Renews b s mediaCalls torrentCalls (.ok ()) (.ok ()) s') :
    s.refresh b now = s'.rebuild b now := by
  obtain ⟨s₁, htorrents, hmedia⟩ := h.renew_eq
  simp only [Inventory.refresh, Inventory.finishRefresh, htorrents, hmedia, Inventory.failures,
    List.append_nil]

theorem Succeeds.refresh_eq {items : List Item}
    (h : Succeeds b now s mediaCalls torrentCalls items s') :
    s.refresh b now = (.ok items, s') := by
  cases h with
  | intro hsides hheld hfound hitems =>
    rw [hsides.refresh_eq]
    simp only [Inventory.rebuild, Inventory.heldMedia, hheld, Inventory.heldTorrents, hfound,
      Inventory.publish, hsides.frame.2, hitems.ofLinked_eq]

namespace Refreshing

variable {result : Except InventoryError (List Item)}

theorem refresh_eq (h : Refreshing b now s mediaCalls torrentCalls result s') :
    s.refresh b now = (result, s') := by
  cases h with
  | notRenewed hsides hfailed => exact hfailed.refresh_eq hsides
  | noMedia hsides hheld =>
    rw [hsides.refresh_eq]
    simp only [Inventory.rebuild, Inventory.heldMedia, hheld]
  | noTorrents hsides hheld hfound =>
    rw [hsides.refresh_eq]
    simp only [Inventory.rebuild, Inventory.heldMedia, hheld, Inventory.heldTorrents, hfound]
  | notEvaluated hsides hheld hfound hitems =>
    rw [hsides.refresh_eq]
    simp only [Inventory.rebuild, Inventory.heldMedia, hheld, Inventory.heldTorrents, hfound,
      Inventory.publish, hsides.frame.2, hitems.ofLinked_eq]
  | published h => exact h.refresh_eq

/-- A refresh publishes what it answers, and nothing if it fails. -/
theorem items_eq (h : Refreshing b now s mediaCalls torrentCalls result s') :
    s'.items = result.toOption.or s.items := by
  cases h with
  | notRenewed hsides => exact hsides.frame.1
  | noMedia hsides => exact hsides.frame.1
  | noTorrents hsides => exact hsides.frame.1
  | notEvaluated hsides => exact hsides.frame.1
  | published h =>
    cases h
    rfl

end Refreshing

theorem exists_refreshing (b : Backends μ τ ρ) (now : Instant) (s : Inventory μ τ ρ) :
    ∃ mediaCalls torrentCalls result s',
      Refreshing b now s mediaCalls torrentCalls result s' := by
  obtain ⟨mediaCalls, torrentCalls, media, torrents, s₁, hsides⟩ := exists_renews b s
  cases media with
  | error e =>
    cases torrents with
    | error e' =>
      exact ⟨_, _, _, _, .notRenewed hsides (.both e e') hsides.contents_notMem hsides.frame.2⟩
    | ok =>
      exact ⟨_, _, _, _, .notRenewed hsides (.media e) hsides.contents_notMem hsides.frame.2⟩
  | ok =>
    cases torrents with
    | error e =>
      exact ⟨_, _, _, _, .notRenewed hsides (.torrents e) hsides.contents_notMem hsides.frame.2⟩
    | ok =>
      rcases hheld : b.media.contents.within b.habits.limit "get media" s₁.media
        with ⟨e | held, media⟩
      · exact ⟨_, _, _, _, .noMedia hsides hheld⟩
      rcases hfound : b.torrents.contents.within b.habits.limit "get torrents" s₁.torrents
        with ⟨e | found, torrents⟩
      · exact ⟨_, _, _, _, .noTorrents hsides hheld hfound⟩
      obtain ⟨e | items, trackers, hitems⟩ :=
        Item.exists_evaluates b.trackers now (linkMedia held found) s.trackers
      · exact ⟨_, _, _, _, .notEvaluated hsides hheld hfound hitems⟩
      · exact ⟨_, _, _, _, .published (.intro hsides hheld hfound hitems)⟩

/-! ## The calls of a refresh -/

theorem contents_recorded {σ β δ : Type} {m : Manager σ β δ} {limit : Option Nat} {stage : String}
    {copy copy' : σ} {answer : Except InventoryError (List β)}
    (h : m.contents.within limit stage copy = (answer, copy')) (log : List (ManagerCall δ)) :
    m.recorded.contents.within limit stage ⟨copy, log⟩ = (answer, ⟨copy', log ++ [.contents]⟩) := by
  have hcall : m.recorded.contents = m.contents.recorded .contents := rfl
  rw [hcall, within_recorded, h]

/-- Recorded managers are refreshed in the same way, and their logs show the calls. -/
theorem Refreshing.recorded {result : Except InventoryError (List Item)}
    (h : Refreshing b now s mediaCalls torrentCalls result s')
    (mediaLog : List (ManagerCall FileDeletion)) (torrentLog : List (ManagerCall TorrentKey)) :
    Refreshing b.recorded now (s.logged mediaLog torrentLog) mediaCalls torrentCalls result
      (s'.logged (mediaLog ++ mediaCalls) (torrentLog ++ torrentCalls)) := by
  cases h with
  | notRenewed hsides hfailed hunasked htrackers =>
    refine .notRenewed (hsides.recorded mediaLog torrentLog) ?_ hunasked htrackers
    cases hfailed with
    | media e => exact .media e
    | torrents e => exact .torrents e
    | both e e' => exact .both e e'
  | noMedia hsides hheld =>
    rw [← List.append_assoc]
    exact .noMedia (hsides.recorded mediaLog torrentLog) (contents_recorded hheld _)
  | noTorrents hsides hheld hfound =>
    rw [← List.append_assoc, ← List.append_assoc]
    exact .noTorrents (hsides.recorded mediaLog torrentLog) (contents_recorded hheld _)
      (contents_recorded hfound _)
  | notEvaluated hsides hheld hfound hitems =>
    rw [← List.append_assoc, ← List.append_assoc]
    exact .notEvaluated (hsides.recorded mediaLog torrentLog) (contents_recorded hheld _)
      (contents_recorded hfound _) hitems
  | published h =>
    cases h with
    | intro hsides hheld hfound hitems =>
      rw [← List.append_assoc, ← List.append_assoc]
      exact .published (.intro (hsides.recorded mediaLog torrentLog) (contents_recorded hheld _)
        (contents_recorded hfound _) hitems)

/-- Every refresh is of this kind, and recorded managers note down exactly its calls. It answers
items if and only if every stage succeeds; it publishes these, and nothing if it fails. -/
theorem refreshing_of_refresh (b : Backends μ τ ρ) (now : Instant) (s : Inventory μ τ ρ) :
    ∃ mediaCalls torrentCalls result s', s.refresh b now = (result, s') ∧
      Refreshing b now s mediaCalls torrentCalls result s' ∧
      (∀ mediaLog torrentLog, (s.logged mediaLog torrentLog).refresh b.recorded now
        = (result, s'.logged (mediaLog ++ mediaCalls) (torrentLog ++ torrentCalls))) ∧
      ((∃ items, result = .ok items) ↔
        ∃ mediaCalls torrentCalls items s', Succeeds b now s mediaCalls torrentCalls items s') ∧
      s'.items = result.toOption.or s.items := by
  obtain ⟨mediaCalls, torrentCalls, result, s', h⟩ := exists_refreshing b now s
  refine ⟨mediaCalls, torrentCalls, result, s', h.refresh_eq, h, fun mediaLog torrentLog => ?_,
    ⟨?_, ?_⟩, h.items_eq⟩
  · exact (h.recorded mediaLog torrentLog).refresh_eq
  · rintro ⟨items, rfl⟩
    cases h with
    | published h => exact ⟨_, _, _, _, h⟩
  · rintro ⟨_, _, items, s'', hsucceeds⟩
    have heq := h.refresh_eq.symm.trans hsucceeds.refresh_eq
    exact ⟨items, congrArg Prod.fst heq⟩

end

end SeedCleanup

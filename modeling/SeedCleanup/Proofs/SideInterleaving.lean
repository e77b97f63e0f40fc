import Mathlib.Logic.Function.Iterate
import SeedCleanup.Proofs.RefreshProtocol
import SeedCleanup.Proofs.SortedTableTheorems

/-!
# Both sides at the same time

The sides of a refresh are renewed at the same time. They share the folder only, in which each has a
file of its own, so their stages commute (`Sides.stepMedia_stepTorrents`), and whatever the order in
which the stages are carried out, they come to what one side after the other comes to.
-/

namespace SeedCleanup

/-! ## Stages and the folder -/

namespace SnapshotFolder

/-- What stands under a name in a folder that exists or can be made. -/
def view (name : String) : SnapshotFolder → Option (Option SnapshotFile)
  | missing => some none
  | blocked => none
  | present files => some (files.get? name)

/-- Change the files in a folder, which is made if it is missing. -/
def change (g : SortedTable String SnapshotFile → SortedTable String SnapshotFile) :
    SnapshotFolder → SnapshotFolder
  | missing => present (g .empty)
  | blocked => blocked
  | present files => present (g files)

/-- Write a text under a name unless a directory stands there. -/
def putText (name text : String) (files : SortedTable String SnapshotFile) :
    SortedTable String SnapshotFile :=
  if files.get? name = some .directory then files else files.insert name (.text text)

variable {name name' : String}

theorem get?_putText_of_ne (h : name ≠ name') (text : String)
    (files : SortedTable String SnapshotFile) :
    (putText name' text files).get? name = files.get? name := by
  unfold putText
  split
  · rfl
  · rw [SortedTable.get?_insert, if_neg (mt beq_iff_eq.1 h)]

theorem putText_of_directory {files : SortedTable String SnapshotFile}
    (h : files.get? name = some .directory) (text : String) : putText name text files = files :=
  if_pos h

theorem putText_of_not_directory {files : SortedTable String SnapshotFile}
    (h : files.get? name ≠ some .directory) (text : String) :
    putText name text files = files.insert name (.text text) :=
  if_neg h

theorem insert_comm (h : name ≠ name') (file file' : SnapshotFile)
    (files : SortedTable String SnapshotFile) :
    (files.insert name' file').insert name file = (files.insert name file).insert name' file' := by
  refine SortedTable.ext_get? fun k => ?_
  simp only [SortedTable.get?_insert, beq_iff_eq]
  by_cases hk : k = name
  · have hne : ¬k = name' := fun hk' => h (hk.symm.trans hk')
    rw [if_pos hk, if_neg hne, if_pos hk]
  · rw [if_neg hk, if_neg hk]

theorem putText_comm (h : name ≠ name') (text text' : String)
    (files : SortedTable String SnapshotFile) :
    putText name text (putText name' text' files)
      = putText name' text' (putText name text files) := by
  have hget : (putText name' text' files).get? name = files.get? name := get?_putText_of_ne h _ _
  have hget' : (putText name text files).get? name' = files.get? name' :=
    get?_putText_of_ne h.symm _ _
  by_cases hdir : files.get? name = some .directory
  · rw [putText_of_directory (hget.trans hdir), putText_of_directory hdir]
  · by_cases hdir' : files.get? name' = some .directory
    · rw [putText_of_directory (hget'.trans hdir'), putText_of_directory hdir']
    · rw [← hget] at hdir
      rw [← hget'] at hdir'
      rw [putText_of_not_directory hdir, putText_of_not_directory hdir']
      rw [hget] at hdir
      rw [hget'] at hdir'
      rw [putText_of_not_directory hdir, putText_of_not_directory hdir', insert_comm h]

variable {folder folder' : SnapshotFolder}

theorem view_change {g : SortedTable String SnapshotFile → SortedTable String SnapshotFile}
    (h : ∀ files, (g files).get? name = files.get? name) (folder : SnapshotFolder) :
    (folder.change g).view name = folder.view name := by
  cases folder with
  | missing => exact congrArg some (h _)
  | blocked => rfl
  | present files => exact congrArg some (h _)

theorem change_comm {g g' : SortedTable String SnapshotFile → SortedTable String SnapshotFile}
    (h : ∀ files, g (g' files) = g' (g files)) (folder : SnapshotFolder) :
    (folder.change g').change g = (folder.change g).change g' := by
  cases folder with
  | missing => exact congrArg present (h _)
  | blocked => rfl
  | present files => exact congrArg present (h _)

theorem read_eq_view (folder : SnapshotFolder) (name : String) :
    folder.read name = match folder.view name with
      | none => .error .notDirectory
      | some none => .error .missing
      | some (some (.text data)) => .ok data
      | some (some .directory) => .error .isDirectory := by
  cases folder with
  | missing => rfl
  | blocked => rfl
  | present files =>
    simp only [read, view]
    rcases files.get? name with _ | _ | _ <;> rfl

end SnapshotFolder

namespace RenewalStage

open SnapshotFolder

/-- The change that a stage makes to the files in the folder, if it works on the folder. -/
def edit (name text : String) :
    RenewalStage → Option (SortedTable String SnapshotFile → SortedTable String SnapshotFile)
  | makeFolder => some id
  | write => some (putText name text)
  | ask | save | read | load => none

/-- What a stage leaves of the folder. -/
def onFolder (name text : String) (stage : RenewalStage) (folder : SnapshotFolder) :
    SnapshotFolder :=
  match stage.edit name text with
  | none => folder
  | some g => folder.change g

variable {name name' text text' : String} {folder folder' : SnapshotFolder}

theorem writeInto_eq_view (name text : String) (folder : SnapshotFolder) :
    writeInto name text folder = match folder.view name with
      | none => .error .notDirectory
      | some (some .directory) => .error .isDirectory
      | some _ => .ok (folder.change (putText name text)) := by
  cases folder with
  | missing => rfl
  | blocked => rfl
  | present files =>
    simp only [writeInto, make, SnapshotFolder.write, view, change]
    rcases hfile : files.get? name with _ | _ | _
    · rw [putText_of_not_directory (by simp [hfile])]
      rfl
    · rw [putText_of_not_directory (by simp [hfile])]
      rfl
    · rfl

theorem edit_comm (hname : name ≠ name') {stage stage' : RenewalStage}
    {g g' : SortedTable String SnapshotFile → SortedTable String SnapshotFile}
    (hg : stage.edit name text = some g) (hg' : stage'.edit name' text' = some g')
    (files : SortedTable String SnapshotFile) : g (g' files) = g' (g files) := by
  cases stage <;> cases hg <;> cases stage' <;> cases hg'
  · rfl
  · rfl
  · rfl
  · exact putText_comm hname text text' files

theorem onFolder_comm (hname : name ≠ name') (stage stage' : RenewalStage)
    (folder : SnapshotFolder) :
    stage.onFolder name text (stage'.onFolder name' text' folder)
      = stage'.onFolder name' text' (stage.onFolder name text folder) := by
  unfold onFolder
  cases hg : stage.edit name text with
  | none => rfl
  | some g =>
    cases hg' : stage'.edit name' text' with
    | none => rfl
    | some g' => exact change_comm (edit_comm hname hg hg') folder

theorem view_onFolder (hname : name ≠ name') (stage : RenewalStage) (folder : SnapshotFolder) :
    (stage.onFolder name' text folder).view name = folder.view name := by
  unfold onFolder
  cases stage with
  | makeFolder => exact view_change (fun _ => rfl) folder
  | write => exact view_change (get?_putText_of_ne hname text) folder
  | _ => rfl

/-- Writing fails and changes nothing if there can be no folder, or a directory has the name. -/
theorem onFolder_write_of_view
    (hfile : ∀ file, folder.view name = some file → file = some .directory) :
    write.onFolder name text folder = folder := by
  cases folder with
  | missing => cases hfile none rfl
  | blocked => rfl
  | present files => exact congrArg present (putText_of_directory (hfile _ rfl) text)

section

variable {μ β δ : Type} {m : Manager μ β δ} {h : Habits}

theorem folder_run (stage : RenewalStage) (r : Renewing μ) :
    (stage.run m h r).2.folder = stage.onFolder (snapshotName m.identity) r.text r.folder := by
  obtain ⟨copy, folder, text⟩ := r
  cases stage with
  | ask => rfl
  | makeFolder => cases folder <;> rfl
  | save =>
    rcases hsave : m.save copy with ⟨_ | _, _⟩
    · simp only [run, hsave]
      rfl
    · simp only [run, hsave]
      rfl
  | write =>
    rcases hfile : folder.view (snapshotName m.identity) with _ | _ | _ | _
    · rw [onFolder_write_of_view (by simp [hfile])]
      simp only [run, writeInto_eq_view, hfile]
    · simp only [run, writeInto_eq_view, hfile]
      rfl
    · simp only [run, writeInto_eq_view, hfile]
      rfl
    · rw [onFolder_write_of_view (by simp [hfile])]
      simp only [run, writeInto_eq_view, hfile]
  | read =>
    simp only [run]
    cases folder.read (snapshotName m.identity) <;> rfl
  | load =>
    rcases hload : m.load text copy with ⟨_ | _, _⟩
    · simp only [run, hload]
      rfl
    · simp only [run, hload]
      rfl

/-- A stage depends on the folder only as far as it sees it. -/
theorem run_of_view_eq (hview : folder.view (snapshotName m.identity)
      = folder'.view (snapshotName m.identity)) (stage : RenewalStage) (copy : μ) (text : String) :
    (stage.run m h ⟨copy, folder, text⟩).1 = (stage.run m h ⟨copy, folder', text⟩).1 ∧
      (stage.run m h ⟨copy, folder, text⟩).2.copy = (stage.run m h ⟨copy, folder', text⟩).2.copy ∧
      (stage.run m h ⟨copy, folder, text⟩).2.text
        = (stage.run m h ⟨copy, folder', text⟩).2.text := by
  cases stage with
  | ask => exact ⟨rfl, rfl, rfl⟩
  | makeFolder =>
    cases folder <;> cases folder' <;> first | exact ⟨rfl, rfl, rfl⟩ | cases hview
  | save =>
    rcases hsave : m.save copy with ⟨_ | _, _⟩ <;> simp only [run, hsave, and_self]
  | write =>
    rcases hfile : folder'.view (snapshotName m.identity) with _ | _ | _ | _ <;>
      simp only [run, writeInto_eq_view, hview, hfile, and_self]
  | read =>
    simp only [run, read_eq_view, hview]
    split <;> exact ⟨rfl, rfl, rfl⟩
  | load =>
    rcases hload : m.load text copy with ⟨_ | _, _⟩ <;> simp only [run, hload, and_self]

end

end RenewalStage

/-! ## One stage of one side -/

/-- How far the renewal of a copy is. -/
structure Progress (μ : Type) where
  copy : μ
  /-- The stages that are left. -/
  rest : List RenewalStage
  /-- What was saved or read. -/
  text : String := ""
  result : Except InventoryError Unit := .ok ()

namespace Progress

variable {μ β δ : Type} (m : Manager μ β δ) (h : Habits)

/-- Carry out the next stage; no stage is left after one that fails. -/
def step (p : Progress μ) (folder : SnapshotFolder) : Progress μ × SnapshotFolder :=
  match p.rest with
  | [] => (p, folder)
  | stage :: rest =>
    let (result, r) := stage.run m h ⟨p.copy, folder, p.text⟩
    (⟨r.copy, if result.isOk then rest else [], r.text, result⟩, r.folder)

/-- What comes of a renewal if its other stages are carried out without a break. -/
def outcome (p : Progress μ) (folder : SnapshotFolder) :
    Except InventoryError Unit × Renewing μ :=
  match p.rest with
  | [] => (p.result, ⟨p.copy, folder, p.text⟩)
  | stages => runStages m h stages ⟨p.copy, folder, p.text⟩

theorem outcome_step (p : Progress μ) (folder : SnapshotFolder) :
    (p.step m h folder).1.outcome m h (p.step m h folder).2 = p.outcome m h folder := by
  obtain ⟨copy, rest, text, result⟩ := p
  cases rest with
  | nil => rfl
  | cons stage rest =>
    rcases hrun : stage.run m h ⟨copy, folder, text⟩ with ⟨e | ⟨⟩, r⟩
    · simp only [step, outcome, runStages, hrun]
      rfl
    · simp only [step, outcome, runStages, hrun]
      cases rest <;> rfl

theorem outcome_of_rest_eq_nil {p : Progress μ} (hrest : p.rest = []) (folder : SnapshotFolder) :
    p.outcome m h folder = (p.result, ⟨p.copy, folder, p.text⟩) := by
  rw [outcome, hrest]

theorem outcome_mk (copy : μ) (stages : List RenewalStage) (text : String)
    (folder : SnapshotFolder) :
    outcome m h ⟨copy, stages, text, .ok ()⟩ folder
      = runStages m h stages ⟨copy, folder, text⟩ := by
  cases stages <;> rfl

variable {m h}

theorem folder_step (p : Progress μ) (folder : SnapshotFolder) :
    (p.step m h folder).2 = match p.rest with
      | [] => folder
      | stage :: _ => stage.onFolder (snapshotName m.identity) p.text folder := by
  unfold step
  split
  · rfl
  · exact RenewalStage.folder_run _ _

theorem view_step {name : String} (hname : name ≠ snapshotName m.identity) (p : Progress μ)
    (folder : SnapshotFolder) : (p.step m h folder).2.view name = folder.view name := by
  rw [folder_step]
  split
  · rfl
  · exact RenewalStage.view_onFolder hname _ folder

theorem step_of_view_eq {folder folder' : SnapshotFolder}
    (hview : folder.view (snapshotName m.identity) = folder'.view (snapshotName m.identity))
    (p : Progress μ) : (p.step m h folder).1 = (p.step m h folder').1 := by
  unfold step
  split
  · rfl
  · rename_i stage rest _
    obtain ⟨hresult, hcopy, htext⟩ :=
      RenewalStage.run_of_view_eq (h := h) hview stage p.copy p.text
    simp only [hresult, hcopy, htext]

end Progress

/-! ## Both sides -/

/-- The sides of a refresh while both copies are renewed. -/
@[ext] structure Sides (μ τ : Type) where
  media : Progress μ
  torrents : Progress τ
  folder : SnapshotFolder

/-- A side takes the next step. -/
inductive SideMove where
  | media
  | torrents

namespace Sides

variable {μ τ ρ : Type} (b : Backends μ τ ρ)

/-- The side of the media carries out its next stage. -/
def stepMedia (x : Sides μ τ) : Sides μ τ :=
  let (media, folder) := x.media.step b.media b.habits x.folder
  { x with media, folder }

/-- The side of the torrents carries out its next stage. -/
def stepTorrents (x : Sides μ τ) : Sides μ τ :=
  let (torrents, folder) := x.torrents.step b.torrents b.habits x.folder
  { x with torrents, folder }

/-- One side carries out its next stage. -/
def step (x : Sides μ τ) : SideMove → Sides μ τ
  | .media => x.stepMedia b
  | .torrents => x.stepTorrents b

/-- The sides carry out stages in the order of a schedule. -/
def run (x : Sides μ τ) (schedule : List SideMove) : Sides μ τ := schedule.foldl (step b) x

/-- The sides of an inventory before a refresh. -/
def start (s : Inventory μ τ ρ) : Sides μ τ :=
  ⟨⟨s.media, b.habits.mode.stages, "", .ok ()⟩, ⟨s.torrents, b.habits.mode.stages, "", .ok ()⟩,
    s.folder⟩

variable {b}

/-- Stages of the sides commute. -/
theorem stepMedia_stepTorrents
    (hname : snapshotName b.media.identity ≠ snapshotName b.torrents.identity) (x : Sides μ τ) :
    (x.stepTorrents b).stepMedia b = (x.stepMedia b).stepTorrents b := by
  have hmedia : (x.media.step b.media b.habits (x.stepTorrents b).folder).1
      = (x.media.step b.media b.habits x.folder).1 :=
    Progress.step_of_view_eq (Progress.view_step hname _ _) _
  have htorrents : (x.torrents.step b.torrents b.habits (x.stepMedia b).folder).1
      = (x.torrents.step b.torrents b.habits x.folder).1 :=
    Progress.step_of_view_eq (Progress.view_step hname.symm _ _) _
  have hfolder : (x.media.step b.media b.habits (x.stepTorrents b).folder).2
      = (x.torrents.step b.torrents b.habits (x.stepMedia b).folder).2 := by
    simp only [stepMedia, stepTorrents, Progress.folder_step]
    cases x.media.rest with
    | nil => rfl
    | cons stage _ =>
      cases x.torrents.rest with
      | nil => rfl
      | cons stage' _ => exact RenewalStage.onFolder_comm hname stage stage' x.folder
  exact Sides.ext hmedia htorrents.symm hfolder

/-- Every schedule can be sorted: first the stages of the torrents, then those of the media. -/
theorem exists_iterate (hname : snapshotName b.media.identity ≠ snapshotName b.torrents.identity)
    (x : Sides μ τ) (schedule : List SideMove) :
    ∃ i j, x.run b schedule = (stepMedia b)^[i] ((stepTorrents b)^[j] x) := by
  have hcomm : Function.Commute (stepMedia b) (stepTorrents b) := stepMedia_stepTorrents hname
  induction schedule generalizing x with
  | nil => exact ⟨0, 0, rfl⟩
  | cons move rest ih =>
    obtain ⟨i, j, hrest⟩ := ih (x.step b move)
    cases move with
    | media =>
      -- the stage of the media goes past all stages of the torrents
      refine ⟨i + 1, j, hrest.trans ?_⟩
      rw [Function.iterate_succ_apply, (hcomm.iterate_right j).eq]
      rfl
    | torrents => exact ⟨i, j + 1, hrest⟩

theorem iterate_stepMedia (i : Nat) (x : Sides μ τ) :
    ((stepMedia b)^[i] x).torrents = x.torrents ∧
      ((stepMedia b)^[i] x).media.outcome b.media b.habits ((stepMedia b)^[i] x).folder
        = x.media.outcome b.media b.habits x.folder := by
  induction i generalizing x with
  | zero => exact ⟨rfl, rfl⟩
  | succ i ih =>
    obtain ⟨htorrents, houtcome⟩ := ih (x.stepMedia b)
    exact ⟨htorrents, houtcome.trans (Progress.outcome_step _ _ _ _)⟩

theorem iterate_stepTorrents (j : Nat) (x : Sides μ τ) :
    ((stepTorrents b)^[j] x).media = x.media ∧
      ((stepTorrents b)^[j] x).torrents.outcome b.torrents b.habits ((stepTorrents b)^[j] x).folder
        = x.torrents.outcome b.torrents b.habits x.folder := by
  induction j generalizing x with
  | zero => exact ⟨rfl, rfl⟩
  | succ j ih =>
    obtain ⟨hmedia, houtcome⟩ := ih (x.stepTorrents b)
    exact ⟨hmedia, houtcome.trans (Progress.outcome_step _ _ _ _)⟩

end Sides

/-- Whatever the order of the stages: when both sides are at their ends, they have come to what one
side after the other comes to. -/
theorem renew_of_schedule {μ τ ρ : Type} {b : Backends μ τ ρ} {s : Inventory μ τ ρ}
    {x : Sides μ τ} (hname : snapshotName b.media.identity ≠ snapshotName b.torrents.identity)
    {schedule : List SideMove} (hrun : (Sides.start b s).run b schedule = x)
    (hmedia : x.media.rest = []) (htorrents : x.torrents.rest = []) :
    ∃ s₁, s.renewTorrents b = (x.torrents.result, s₁) ∧ s₁.renewMedia b
      = (x.media.result,
          { s with media := x.media.copy, torrents := x.torrents.copy, folder := x.folder }) := by
  obtain ⟨i, j, hsorted⟩ := Sides.exists_iterate hname (Sides.start b s) schedule
  let y := (Sides.stepTorrents b)^[j] (Sides.start b s)
  obtain ⟨hstart, hfirst⟩ := Sides.iterate_stepTorrents (b := b) j (Sides.start b s)
  obtain ⟨hkept, hsecond⟩ := Sides.iterate_stepMedia (b := b) i y
  have hx : (Sides.stepMedia b)^[i] y = x := hsorted.symm.trans hrun
  rw [hx] at hkept hsecond
  have hend : y.torrents.rest = [] := hkept ▸ htorrents
  refine ⟨{ s with torrents := x.torrents.copy, folder := y.folder }, ?_, ?_⟩
  · have hstages : runStages b.torrents b.habits b.habits.mode.stages ⟨s.torrents, s.folder, ""⟩
        = (x.torrents.result, ⟨x.torrents.copy, y.folder, x.torrents.text⟩) := by
      rw [← Progress.outcome_mk, hkept, ← Progress.outcome_of_rest_eq_nil b.torrents b.habits hend]
      exact hfirst.symm
    rw [Inventory.renewTorrents, Manager.renew_eq_runStages, hstages]
  · have hstages : runStages b.media b.habits b.habits.mode.stages ⟨s.media, y.folder, ""⟩
        = (x.media.result, ⟨x.media.copy, x.folder, x.media.text⟩) := by
      rw [← Progress.outcome_mk, ← Progress.outcome_of_rest_eq_nil b.media b.habits hmedia]
      exact (hsecond.trans (congrArg (fun p => p.outcome b.media b.habits y.folder) hstart)).symm
    rw [Inventory.renewMedia, Manager.renew_eq_runStages, hstages]

end SeedCleanup

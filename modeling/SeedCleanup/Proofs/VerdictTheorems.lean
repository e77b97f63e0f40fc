import SeedCleanup.Inventory.Verdict
import SeedCleanup.Proofs.SortedTableTheorems

/-!
# Folding verdicts

The decision on a season or a title is the strictest among those of its files (`worstOf`), and the
report of a title holds such a fold for the title and for each of its seasons.
-/

namespace SeedCleanup

/-! ## The strictest of many decisions -/

namespace Decision

/-- The strictest of a list of decisions; of none it is that all may go. -/
def worstOf (decisions : List Decision) : Decision := decisions.foldl worst .safeToDelete

@[simp] theorem safeToDelete_worst (d : Decision) : worst .safeToDelete d = d := by cases d <;> rfl

theorem worst_eq_safeToDelete_iff {a b : Decision} :
    a.worst b = .safeToDelete ↔ a = .safeToDelete ∧ b = .safeToDelete := by
  cases a <;> cases b <;> simp [worst]

theorem foldl_worst_eq_safeToDelete_iff (d : Decision) (decisions : List Decision) :
    decisions.foldl worst d = .safeToDelete
      ↔ d = .safeToDelete ∧ ∀ d' ∈ decisions, d' = .safeToDelete := by
  induction decisions generalizing d with
  | nil => simp
  | cons d' rest ih =>
    rw [List.foldl_cons, ih, worst_eq_safeToDelete_iff, List.forall_mem_cons, and_assoc]

/-- A list may go as a whole exactly when all its members may. -/
theorem worstOf_eq_safeToDelete_iff {decisions : List Decision} :
    worstOf decisions = .safeToDelete ↔ ∀ d ∈ decisions, d = .safeToDelete := by
  rw [worstOf, foldl_worst_eq_safeToDelete_iff]
  simp

end Decision

/-! ## The verdict on a list -/

namespace Verdict

theorem decision_foldl_combine (v : Verdict) (rest : List Verdict) :
    (rest.foldl combine v).decision = (rest.map (·.decision)).foldl Decision.worst v.decision := by
  induction rest generalizing v with
  | nil => rfl
  | cons w rest ih => exact ih (v.combine w)

/-- The verdict on a list carries the strictest decision. -/
theorem decision_of_fold? {vs : List Verdict} {v : Verdict} (h : fold? vs = some v) :
    v.decision = Decision.worstOf (vs.map (·.decision)) := by
  cases vs with
  | nil => cases h
  | cons w rest =>
    obtain rfl := Option.some.inj h
    rw [decision_foldl_combine, Decision.worstOf, List.map_cons, List.foldl_cons,
      Decision.safeToDelete_worst]

theorem fold?_eq_none_iff {vs : List Verdict} : fold? vs = none ↔ vs = [] := by
  cases vs <;> simp [fold?]

end Verdict

/-! ## Reports -/

namespace Report

/-- The decision of a report on a file. -/
def decisionOn (report : Report) (f : LinkedFile) : Option Decision :=
  (report.files.get? f.file.id).map (·.decision)

variable (media : LinkedTitle) (files : SortedTable Int64 Verdict)

/-- The decision on a title is the strictest among those of its files. -/
theorem decision_result :
    (ofFiles media files).result.decision
      = Decision.worstOf ((verdictsOn media files fun _ => true).map (·.decision)) := by
  rw [ofFiles]
  cases h : Verdict.fold? (verdictsOn media files fun _ => true) with
  | none =>
    rw [Verdict.fold?_eq_none_iff.1 h]
    rfl
  | some v => exact Verdict.decision_of_fold? h

variable {media files}

/-- Only a season to which a file belongs has verdicts to fold. -/
theorem exists_file_of_fold? {n : Int32} {v : Verdict}
    (h : Verdict.fold? (verdictsOn media files (·.season == n)) = some v) :
    ∃ f ∈ media.files, f.file.season = n := by
  have hne : verdictsOn media files (·.season == n) ≠ [] := by
    intro hnil
    rw [hnil] at h
    cases h
  obtain ⟨w, hw⟩ := List.exists_mem_of_ne_nil _ hne
  obtain ⟨f, hf, -⟩ := List.mem_filterMap.1 hw
  obtain ⟨hmem, hseason⟩ := List.mem_filter.1 hf
  exact ⟨f, hmem, eq_of_beq hseason⟩

/-- The verdicts on the seasons of a series before they are put into a table. -/
theorem mem_seasonEntries_iff {n : Int32} {v : Verdict} :
    (n, v) ∈ (media.files.filter (·.file.hasSeason)).filterMap (fun f =>
        (Verdict.fold? (verdictsOn media files (·.season == f.file.season))).map (f.file.season, ·))
      ↔ 0 < n ∧ Verdict.fold? (verdictsOn media files (·.season == n)) = some v := by
  rw [List.mem_filterMap]
  constructor
  · rintro ⟨f, hf, hfv⟩
    obtain ⟨w, hw, heq⟩ := Option.map_eq_some_iff.1 hfv
    obtain ⟨rfl, rfl⟩ := Prod.mk.inj heq
    exact ⟨of_decide_eq_true (List.mem_filter.1 hf).2, hw⟩
  · rintro ⟨hn, hv⟩
    obtain ⟨f, hf, rfl⟩ := exists_file_of_fold? hv
    refine ⟨f, List.mem_filter.2 ⟨hf, decide_eq_true hn⟩, ?_⟩
    rw [hv]
    rfl

variable (media files)

/-- A report has a verdict on a season exactly when files of a series belong to it, and then it is
the verdict on those files. -/
theorem get?_seasons (n : Int32) :
    (ofFiles media files).seasons.get? n
      = if media.title.kind = .series ∧ 0 < n then
          Verdict.fold? (verdictsOn media files (·.season == n))
        else none := by
  show (seasonVerdicts media files).get? n = _
  unfold seasonVerdicts
  cases hkind : media.title.kind with
  | movie => simp [SortedTable.get?, SortedTable.empty]
  | series =>
    refine Option.ext fun v => ?_
    constructor
    · intro h
      obtain ⟨hn, hv⟩ := mem_seasonEntries_iff.1 (SortedTable.mem_of_get?_ofList h)
      rw [if_pos ⟨rfl, hn⟩, hv]
    · intro h
      by_cases hn : 0 < n
      · rw [if_pos ⟨rfl, hn⟩] at h
        -- all files of a season bring the same verdict into the table
        refine SortedTable.get?_ofList_eq_some (mem_seasonEntries_iff.2 ⟨hn, h⟩) fun v' hv' => ?_
        obtain ⟨-, heq⟩ := mem_seasonEntries_iff.1 hv'
        exact Option.some.inj (heq.symm.trans h)
      · rw [if_neg fun hboth => hn hboth.2] at h
        cases h

end Report

end SeedCleanup

import Mathlib.Data.List.Nodup
import SeedCleanup.Proofs.TrackerTheorems
import SeedCleanup.Proofs.VerdictTheorems

/-!
# Retention

What evaluating a title leaves in its report: one verdict for each file, whatever the resolver does
(`evaluate_eq_ok`). A resolver that answers by rules never fails, and a file may go exactly when its
torrent has met the first rule that matches (`decision_verdictOn_iff`).
-/

namespace SeedCleanup

/-! ## Any resolver -/

section

variable {σ : Type} {r : TrackerResolver σ} {now : Instant} {title : Title}

/-- The verdicts on files are in the order of the files, under their ids. -/
theorem keys_of_verdictsOfFiles {files : List LinkedFile} {s s' : σ}
    {verdicts : List (Int64 × Verdict)}
    (h : verdictsOfFiles r now title files s = (.ok verdicts, s')) :
    verdicts.map (·.1) = files.map (·.file.id) := by
  induction files generalizing s verdicts with
  | nil =>
    cases h
    rfl
  | cons f rest ih =>
    unfold verdictsOfFiles at h
    split at h
    · cases h
    · split at h
      · cases h
      · rename_i hrest
        cases h
        rw [List.map_cons, List.map_cons, ih hrest]

/-- If each file has a verdict whose search changes nothing, then these are the verdicts. -/
theorem verdictsOfFiles_eq_ok {files : List LinkedFile} {s : σ} {verdict : LinkedFile → Verdict}
    (h : ∀ f ∈ files, f.verdict r now title s = (.ok (verdict f), s)) :
    verdictsOfFiles r now title files s = (.ok (files.map fun f => (f.file.id, verdict f)), s) := by
  induction files with
  | nil => rfl
  | cons f rest ih =>
    obtain ⟨hf, hrest⟩ := List.forall_mem_cons.1 h
    simp only [verdictsOfFiles, hf, ih hrest, List.map_cons]

end

/-! ## Reports on the files of a title -/

namespace Report

variable {media : LinkedTitle} {verdict : LinkedFile → Verdict}

/-- The verdict on a file is found under its id when no other file has that id. -/
theorem get?_files_of_nodup (hids : (media.files.map (·.file.id)).Nodup) {f : LinkedFile}
    (hf : f ∈ media.files) :
    (SortedTable.ofList (media.files.map fun f => (f.file.id, verdict f))).get? f.file.id
      = some (verdict f) := by
  refine SortedTable.get?_ofList_eq_some (List.mem_map.2 ⟨f, hf, rfl⟩) fun v hv => ?_
  obtain ⟨g, hg, heq⟩ := List.mem_map.1 hv
  obtain ⟨hid, rfl⟩ := Prod.mk.inj heq
  rw [List.inj_on_of_nodup_map hids hg hf hid]

/-- With a verdict under the id of each file, the verdicts on some files are those of the files. -/
theorem verdictsOn_eq_map {files : SortedTable Int64 Verdict}
    (h : ∀ f ∈ media.files, files.get? f.file.id = some (verdict f)) (p : MediaFile → Bool) :
    verdictsOn media files p = (media.files.filter fun f => p f.file).map verdict := by
  rw [verdictsOn, ← List.filterMap_eq_map]
  refine List.filterMap_congr fun f hf => ?_
  exact h f (List.mem_filter.1 hf).1

end Report

/-! ## Resolvers that answer by rules -/

/-- A resolver in some state answers by a function of the hosts and stays in that state. -/
def TrackerResolver.AnswersAt {σ : Type} (r : TrackerResolver σ) (s : σ)
    (answer : List String → Except TrackerError Tracker) : Prop :=
  ∀ hosts, r.resolve s hosts = (answer hosts, s)

theorem Trackers.resolver_answersAt (rules : TrackerRules) :
    Trackers.resolver.AnswersAt (.rules rules) rules.resolve := fun _ => rfl

namespace TrackerRules

/-- The verdict of rules on a file. -/
def verdictOn (rules : TrackerRules) (now : Instant) (f : LinkedFile) : Verdict :=
  match f.torrent with
  | none => ⟨.safeToDelete, none⟩
  | some t =>
    match rules.resolve t.trackers with
    | .ok tracker => t.verdict tracker now
    | .error _ => ⟨.pending, none⟩

variable {rules : TrackerRules} {now : Instant}

/-- Judging by rules always gives a verdict. -/
theorem verdict_eq_verdictOn {σ : Type} {r : TrackerResolver σ} {s : σ}
    (h : r.AnswersAt s rules.resolve) (title : Title) (f : LinkedFile) :
    f.verdict r now title s = (.ok (rules.verdictOn now f), s) := by
  cases ht : f.torrent with
  | none => simp only [LinkedFile.verdict, verdictOn, ht]
  | some t =>
    cases hres : rules.resolve t.trackers with
    | ok tracker => simp only [LinkedFile.verdict, verdictOn, ht, h t.trackers, hres]
    | error e =>
      have hnot : e.isNotFound = true := by rw [eq_notFound_of_resolve hres]; rfl
      simp only [LinkedFile.verdict, verdictOn, ht, h t.trackers, hres, hnot, if_true]

theorem evaluate_eq_ok {σ : Type} {r : TrackerResolver σ} {s : σ}
    (h : r.AnswersAt s rules.resolve) (media : LinkedTitle) :
    media.evaluate r now s
      = (.ok (.ofFiles media
          (.ofList (media.files.map fun f => (f.file.id, rules.verdictOn now f)))), s) := by
  unfold LinkedTitle.evaluate
  rw [verdictsOfFiles_eq_ok fun f _ => verdict_eq_verdictOn h media.title f]

end TrackerRules

/-! ## When a file may go -/

/-- Whether a torrent has met a rule: its ratio is high enough, and the time that the rule asks for
has passed since it was added. A time that leaves the calendar never passes. -/
def TrackerRule.IsMet (r : TrackerRule) (t : Torrent) (now : Instant) : Prop :=
  r.minRatio.le t.ratio = true ∧
    ∃ age ready, r.minAge? = some age ∧ t.added.add? age = some ready ∧ ready ≤ now

theorem Torrent.seededEnough_iff {t : Torrent} {tracker : Tracker} {now : Instant} :
    t.seededEnough tracker now = true
      ↔ tracker.minRatio.le t.ratio = true ∧
        ∃ ready, t.added.add? tracker.minAge = some ready ∧ ready ≤ now := by
  rw [Torrent.seededEnough, Bool.and_eq_true]
  cases t.added.add? tracker.minAge <;> simp

theorem Torrent.decision_verdict_iff {t : Torrent} {tracker : Tracker} {now : Instant} :
    (t.verdict tracker now).decision = .safeToDelete ↔ t.seededEnough tracker now = true := by
  unfold Torrent.verdict
  cases t.seededEnough tracker now <;> simp

/-- Rules let a file go when it has no torrent, or when its torrent has met the first rule of the
configuration that matches one of its hosts. -/
theorem TrackerRules.decision_verdictOn_iff
    {compilePattern : String → Except Regex.PatternError (String → Bool)}
    {configs : List TrackerRule} {rules : TrackerRules}
    (hrules : TrackerRule.compileAll compilePattern configs = .ok rules) {now : Instant}
    {f : LinkedFile} :
    (rules.verdictOn now f).decision = .safeToDelete
      ↔ f.torrent = none ∨ ∃ t, f.torrent = some t ∧
          ∃ r, IsFirst (·.Matches compilePattern t.trackers) configs r ∧ r.IsMet t now := by
  cases ht : f.torrent with
  | none => simp [verdictOn, ht]
  | some t =>
    cases hres : rules.resolve t.trackers with
    | ok tracker =>
      -- the tracker is that of the first rule that matches, and there is only one such rule
      obtain ⟨r, age, hfirst, hage, rfl⟩ := (resolve_eq_ok_iff hrules).1 hres
      have hmet : (t.verdict ⟨r.name, r.minRatio, age⟩ now).decision = .safeToDelete
          ↔ r.IsMet t now := by
        rw [Torrent.decision_verdict_iff, Torrent.seededEnough_iff, TrackerRule.IsMet, hage]
        simp
      simp only [verdictOn, ht, hres, hmet]
      constructor
      · intro h
        exact .inr ⟨t, rfl, r, hfirst, h⟩
      · rintro (h | ⟨t', heq, r', hfirst', h⟩)
        · cases h
        · obtain rfl := Option.some.inj heq
          rwa [hfirst.unique hfirst']
    | error e =>
      -- no rule matches, so a rule that is met would have been found
      simp only [verdictOn, ht, hres]
      constructor
      · intro h
        cases h
      · rintro (h | ⟨t', heq, r', hfirst', -, age, ready, hage, -⟩)
        · cases h
        · obtain rfl := Option.some.inj heq
          rw [(resolve_eq_ok_iff hrules).2 ⟨r', age, hfirst', hage, rfl⟩] at hres
          cases hres

end SeedCleanup

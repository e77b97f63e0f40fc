import SeedCleanup.Proofs.RemovalTheorems

/-!
# Verdicts at a later time

Judging a title again at a later time gives verdicts under the same keys and by the same trackers,
and what could go still can (`Report.Later`). A torrent whose time leaves the calendar waits for
ever.
-/

namespace SeedCleanup

/-! ## Verdicts -/

/-- A verdict on the same things at a later time: the tracker is the same, and what could go still
can. -/
structure Verdict.Later (v v' : Verdict) : Prop where
  tracker_eq : v'.tracker = v.tracker
  safe : v.decision = .safeToDelete → v'.decision = .safeToDelete

namespace Verdict

theorem Later.refl (v : Verdict) : v.Later v := ⟨rfl, id⟩

theorem Later.combine {v v' w w' : Verdict} (hv : v.Later v') (hw : w.Later w') :
    (v.combine w).Later (v'.combine w') := by
  refine ⟨?_, fun h => ?_⟩
  · simp only [Verdict.combine, hv.tracker_eq, hw.tracker_eq]
  · obtain ⟨hvsafe, hwsafe⟩ := Decision.worst_eq_safeToDelete_iff.1 h
    exact Decision.worst_eq_safeToDelete_iff.2 ⟨hv.safe hvsafe, hw.safe hwsafe⟩

theorem later_foldl {vs vs' : List Verdict} (h : List.Forall₂ Later vs vs') {v v' : Verdict}
    (hv : v.Later v') : (vs.foldl combine v).Later (vs'.foldl combine v') := by
  induction h generalizing v v' with
  | nil => exact hv
  | cons hw _ ih => exact ih (hv.combine hw)

theorem later_fold? {vs vs' : List Verdict} (h : List.Forall₂ Later vs vs') :
    Option.Rel Later (fold? vs) (fold? vs') := by
  cases h with
  | nil => exact .none
  | cons hv hrest => exact .some (later_foldl hrest hv)

/-- One pending verdict makes a list pending. -/
theorem decision_fold?_of_mem {vs : List Verdict} {v : Verdict} (hv : v ∈ vs)
    (hpending : v.decision = .pending) :
    (fold? vs).map (·.decision) = some .pending := by
  have hne : fold? vs ≠ none := mt fold?_eq_none_iff.1 (List.ne_nil_of_mem hv)
  obtain ⟨w, hw⟩ := Option.ne_none_iff_exists'.1 hne
  rw [hw, Option.map_some]
  cases hd : w.decision with
  | pending => rfl
  | safeToDelete =>
    rw [decision_of_fold? hw, Decision.worstOf_eq_safeToDelete_iff] at hd
    have hsafe : v.decision = .safeToDelete := hd _ (List.mem_map_of_mem hv)
    rw [hpending] at hsafe
    cases hsafe

end Verdict

/-! ## Reports -/

/-- A report on the same title at a later time: it has the same seasons and files, and later
verdicts on the title and on each of them. -/
structure Report.Later (report report' : Report) : Prop where
  result : report.result.Later report'.result
  seasons : report.seasons.Related Verdict.Later report'.seasons
  files : report.files.Related Verdict.Later report'.files

namespace Report

variable {files files' : SortedTable Int64 Verdict}

theorem later_verdictsOn (media : LinkedTitle) (h : files.Related Verdict.Later files')
    (p : MediaFile → Bool) :
    List.Forall₂ Verdict.Later (verdictsOn media files p) (verdictsOn media files' p) := by
  -- both look up the same ids, so what one table lacks the other lacks as well
  refine List.rel_filterMap (R := Eq) ?_ (List.forall₂_refl _)
  rintro f _ rfl
  exact h.get? f.file.id

theorem later_seasonVerdicts (media : LinkedTitle) (h : files.Related Verdict.Later files') :
    (seasonVerdicts media files).Related Verdict.Later (seasonVerdicts media files') := by
  unfold seasonVerdicts
  cases media.title.kind with
  | movie => exact .nil
  | series =>
    refine SortedTable.related_ofList (List.rel_filterMap (R := Eq) ?_ (List.forall₂_refl _))
    rintro f _ rfl
    have hfold := Verdict.later_fold? (later_verdictsOn media h (·.season == f.file.season))
    revert hfold
    beta_reduce
    generalize Verdict.fold? _ = v, Verdict.fold? _ = v'
    rintro (hv | -)
    · exact .some ⟨rfl, hv⟩
    · exact .none

/-- Later verdicts on the files make a later report. -/
theorem later_ofFiles (media : LinkedTitle) (h : files.Related Verdict.Later files') :
    (ofFiles media files).Later (ofFiles media files') where
  result := by
    unfold ofFiles
    have hfold := Verdict.later_fold? (later_verdictsOn media h fun _ => true)
    revert hfold
    generalize Verdict.fold? _ = v, Verdict.fold? _ = v'
    rintro (hv | -)
    · exact hv
    · exact .refl _
  seasons := later_seasonVerdicts media h
  files := h

end Report

/-! ## Judging again -/

section

variable {σ : Type} {r : TrackerResolver σ} {s : σ}
  {answer : List String → Except TrackerError Tracker} {now now' : Instant}

/-- A torrent that has seeded enough has seeded enough ever after. -/
theorem Torrent.later_verdict (hle : now ≤ now') (t : Torrent) (tracker : Tracker) :
    (t.verdict tracker now).Later (t.verdict tracker now') := by
  refine ⟨rfl, fun h => ?_⟩
  rw [Torrent.decision_verdict_iff, Torrent.seededEnough_iff] at h ⊢
  obtain ⟨hratio, ready, hready, hpassed⟩ := h
  exact ⟨hratio, ready, hready, Instant.le_trans hpassed hle⟩

theorem LinkedFile.later_verdict (h : r.AnswersAt s answer) (hle : now ≤ now') {title : Title}
    {f : LinkedFile} {v : Verdict} (hv : f.verdict r now title s = (.ok v, s)) :
    ∃ v', f.verdict r now' title s = (.ok v', s) ∧ v.Later v' := by
  cases ht : f.torrent with
  | none =>
    simp only [LinkedFile.verdict, ht] at hv ⊢
    exact ⟨v, hv, .refl v⟩
  | some t =>
    cases hanswer : answer t.trackers with
    | ok tracker =>
      simp only [LinkedFile.verdict, ht, h t.trackers, hanswer] at hv ⊢
      obtain rfl : t.verdict tracker now = v := Except.ok.inj (Prod.mk.inj hv).1
      exact ⟨_, rfl, Torrent.later_verdict hle t tracker⟩
    | error e =>
      -- whether the search failed does not depend on the time
      simp only [LinkedFile.verdict, ht, h t.trackers, hanswer] at hv ⊢
      exact ⟨v, hv, .refl v⟩

/-- A torrent whose time leaves the calendar has never seeded enough. -/
theorem Torrent.verdict_of_beyond_calendar {t : Torrent} {tracker : Tracker}
    (h : (t.added.later tracker.minAge).inCalendar = false) (clock : Instant) :
    t.verdict tracker clock = ⟨.pending, some tracker⟩ := by
  have hnever : t.added.add? tracker.minAge = none := by
    simp only [Instant.add?, h, Bool.false_eq_true, if_false]
  have hnot : t.seededEnough tracker clock = false := by
    simp only [Torrent.seededEnough, hnever, Bool.and_false]
  simp only [Torrent.verdict, hnot, Bool.false_eq_true, if_false]

end

/-! ## What waits for one file -/

namespace Report

variable {media : LinkedTitle} {files : SortedTable Int64 Verdict}

/-- A report waits for a file of a title: the file is pending by its tracker, and so are the title
and, in a series, the season of the file. -/
structure WaitsFor (report : Report) (media : LinkedTitle) (f : LinkedFile) (tracker : Tracker) :
    Prop where
  file : report.files.get? f.file.id = some ⟨.pending, some tracker⟩
  season : media.title.kind = .series → 0 < f.file.season →
    (report.seasons.get? f.file.season).map (·.decision) = some .pending
  title : report.result.decision = .pending

theorem waitsFor_ofFiles {f : LinkedFile} (hf : f ∈ media.files) {tracker : Tracker}
    (h : files.get? f.file.id = some ⟨.pending, some tracker⟩) :
    (ofFiles media files).WaitsFor media f tracker := by
  have hmem (p : MediaFile → Bool) (hp : p f.file = true) :
      ⟨.pending, some tracker⟩ ∈ verdictsOn media files p :=
    List.mem_filterMap.2 ⟨f, List.mem_filter.2 ⟨hf, hp⟩, h⟩
  refine ⟨h, fun hkind hseason => ?_, ?_⟩
  · rw [get?_seasons, if_pos ⟨hkind, hseason⟩]
    exact Verdict.decision_fold?_of_mem (hmem _ (beq_self_eq_true _)) rfl
  · have hall := Verdict.decision_fold?_of_mem (hmem (fun _ => true) rfl) rfl
    obtain ⟨v, hv, hd⟩ := Option.map_eq_some_iff.1 hall
    rw [ofFiles, hv]
    exact hd

end Report

/-! ## Two runs -/

section

variable {σ : Type} {r : TrackerResolver σ} {s : σ}
  {answer : List String → Except TrackerError Tracker}

theorem LinkedTitle.exists_later_evaluate (h : r.AnswersAt s answer) {media : LinkedTitle}
    {now now' : Instant} (hle : now ≤ now') {report : Report} {s' : σ}
    (hrun : media.evaluate r now s = (.ok report, s')) :
    ∃ report', media.evaluate r now' s = (.ok report', s') ∧ report.Later report' := by
  obtain ⟨verdict, hverdict⟩ := exists_verdicts_of_evaluate h hrun
  choose! verdict' hverdict' hlater using
    fun f hf => LinkedFile.later_verdict h hle (hverdict f hf)
  -- each run gives every file a verdict of its own, under the ids that both share
  obtain ⟨hreport, rfl⟩ := Prod.mk.inj (hrun.symm.trans (evaluate_eq_ofFiles hverdict))
  obtain rfl := Except.ok.inj hreport
  refine ⟨_, evaluate_eq_ofFiles hverdict', Report.later_ofFiles media ?_⟩
  refine SortedTable.related_ofList ?_
  rw [List.forall₂_map_left_iff, List.forall₂_map_right_iff, List.forall₂_same]
  exact fun f hf => ⟨rfl, hlater f hf⟩

/-- The last file of an id is judged by its torrent. -/
theorem LinkedTitle.waitsFor_of_evaluate (h : r.AnswersAt s answer) {media : LinkedTitle}
    {before after : List LinkedFile} {f : LinkedFile} (hfiles : media.files = before ++ f :: after)
    (hlast : ∀ g ∈ after, g.file.id ≠ f.file.id) {t : Torrent} (ht : f.torrent = some t)
    {tracker : Tracker} (hanswer : answer t.trackers = .ok tracker) {clock : Instant}
    (hpending : t.verdict tracker clock = ⟨.pending, some tracker⟩) {report : Report} {s' : σ}
    (hrun : media.evaluate r clock s = (.ok report, s')) :
    report.WaitsFor media f tracker := by
  have hf : f ∈ media.files := hfiles ▸ List.mem_append_right _ List.mem_cons_self
  obtain ⟨verdict, hverdict⟩ := exists_verdicts_of_evaluate h hrun
  have hown : verdict f = ⟨.pending, some tracker⟩ := by
    have hv := hverdict f hf
    simp only [LinkedFile.verdict, ht, h t.trackers, hanswer, hpending] at hv
    exact (Except.ok.inj (Prod.mk.inj hv).1).symm
  obtain ⟨hreport, -⟩ := Prod.mk.inj (hrun.symm.trans (evaluate_eq_ofFiles hverdict))
  obtain rfl := Except.ok.inj hreport
  refine Report.waitsFor_ofFiles hf ?_
  -- of several verdicts under one id the table keeps the last, and no file behind `f` has its id
  have hnone : (after.map fun g => (g.file.id, verdict g)).reverse.lookup f.file.id = none := by
    rw [List.lookup_eq_none_iff]
    intro e he
    obtain ⟨g, hg, rfl⟩ := List.mem_map.1 (List.mem_reverse.1 he)
    exact bne_iff_ne.2 (hlast g hg).symm
  rw [SortedTable.get?_ofList, hfiles, List.map_append, List.map_cons, List.reverse_append,
    List.reverse_cons, List.append_assoc, List.lookup_append, hnone, hown]
  simp

/-- Evaluating a title again at a later time succeeds as well, with the same keys and trackers, and
what could go still can. A torrent for which the time that its tracker asks for ends beyond the
calendar is pending at every time, and keeps the season and the title of its file. -/
theorem evaluate_monotone (h : r.AnswersAt s answer) (media : LinkedTitle) :
    (∀ now now', now ≤ now' → ∀ report s', media.evaluate r now s = (.ok report, s') →
      ∃ report', media.evaluate r now' s = (.ok report', s') ∧ report.Later report') ∧
    ∀ (t : Torrent) (tracker : Tracker), (t.added.later tracker.minAge).inCalendar = false →
      ∀ clock, t.verdict tracker clock = ⟨.pending, some tracker⟩ ∧
      ∀ f, f.torrent = some t → answer t.trackers = .ok tracker →
        f.verdict r clock media.title s = (.ok ⟨.pending, some tracker⟩, s) ∧
        ∀ before after, media.files = before ++ f :: after →
          (∀ g ∈ after, g.file.id ≠ f.file.id) →
          ∀ report s', media.evaluate r clock s = (.ok report, s') →
            report.WaitsFor media f tracker := by
  refine ⟨fun now now' hle report s' hrun => LinkedTitle.exists_later_evaluate h hle hrun,
    fun t tracker hbeyond clock => ?_⟩
  have hpending := Torrent.verdict_of_beyond_calendar hbeyond clock
  refine ⟨hpending, fun f ht hanswer => ⟨?_, fun before after hfiles hlast report s' hrun => ?_⟩⟩
  · simp only [LinkedFile.verdict, ht, h t.trackers, hanswer, hpending]
  · exact LinkedTitle.waitsFor_of_evaluate h hfiles hlast ht hanswer hpending hrun

end

/-! ## A season that may go beside one that never may -/

namespace Sample

def hour : Tracker := ⟨"tracker", .ofNat 1, .ofSeconds 3600⟩

/-- A tracker that asks for more hours than the calendar has. -/
def archive : Tracker := ⟨"archive", .ofNat 0, .ofSeconds (10000000000 * 3600)⟩

def trackerOf (hosts : List String) : Except TrackerError Tracker :=
  .ok (if hosts = ["tracker.org"] then hour else archive)

def archived : Torrent := ⟨"qbit", "b", "archived", .ofNat 5, ⟨0, 0⟩, ["archive.org"], []⟩

def first : LinkedFile := ⟨⟨40, 1, "alpha.mkv", 100⟩, some torrent⟩

def second : LinkedFile := ⟨⟨41, 2, "archived", 200⟩, some archived⟩

def agingSeries : LinkedTitle := ⟨⟨7, .series, "Delta", "", ⟨0, 0⟩⟩, [first, second]⟩

/-- The report when the hour is over. -/
def afterHour : Report :=
  .ofFiles agingSeries (.ofList [(40, ⟨.safeToDelete, some hour⟩), (41, ⟨.pending, some archive⟩)])

end Sample

open Sample in
theorem first_season_stays_safe :
    (afterHour.seasons.get? 1).map (·.decision) = some .safeToDelete ∧
    ∃ report, agingSeries.evaluate (.ofFunction trackerOf) ⟨9999, 0⟩ () = (.ok report, ()) ∧
      report.seasons.keys = [1, 2] ∧
      (report.seasons.get? 1).map (·.decision) = some .safeToDelete ∧
      (report.seasons.get? 2).map (·.decision) = some .pending := by
  have hanswers : (TrackerResolver.ofFunction trackerOf).AnswersAt () trackerOf := fun _ => rfl
  obtain ⟨hlater, hbeyond⟩ := evaluate_monotone hanswers agingSeries
  have hhour : agingSeries.evaluate (.ofFunction trackerOf) ⟨3600, 0⟩ () = (.ok afterHour, ()) :=
    rfl
  obtain ⟨report, hreport, hsame⟩ := hlater ⟨3600, 0⟩ ⟨9999, 0⟩ (by decide) afterHour () hhour
  obtain ⟨-, harchived⟩ := hbeyond archived archive (by decide) ⟨9999, 0⟩
  obtain ⟨-, hpending⟩ := harchived second rfl rfl
  have hwaits := hpending [first] [] rfl (by simp) report () hreport
  refine ⟨rfl, report, hreport, hsame.seasons.keys_eq, ?_, hwaits.season rfl (by decide)⟩
  have hseason : Option.Rel Verdict.Later (some ⟨.safeToDelete, some hour⟩)
      (report.seasons.get? 1) := hsame.seasons.get? 1
  cases hget : report.seasons.get? 1 with
  | none =>
    rw [hget] at hseason
    cases hseason
  | some v =>
    rw [hget] at hseason
    obtain hv := Option.rel_some_some.1 hseason
    rw [Option.map_some, hv.safe rfl]

end SeedCleanup

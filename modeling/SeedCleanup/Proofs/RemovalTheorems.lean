import Mathlib.Tactic.Choose
import SeedCleanup.Proofs.ItemTheorems
import SeedCleanup.Proofs.RetentionSafety

/-!
# Taking files out of items

Taking files out of an item twice is taking them out at once (`Item.withoutFiles_withoutFiles`). If
trackers are found by the hosts alone, what is left of an item is what evaluating the rest of its
title would give (`Item.withoutFiles_of_evaluate`).
-/

namespace SeedCleanup

/-- A linked title without some of its files. -/
def LinkedTitle.without (media : LinkedTitle) (remove : MediaFile → Bool) : LinkedTitle :=
  { media with files := media.files.filter fun f => !remove f.file }

theorem LinkedTitle.without_without (media : LinkedTitle) (p q : MediaFile → Bool) :
    (media.without p).without q = media.without fun f => p f || q f := by
  simp only [without, List.filter_filter, Bool.not_or, Bool.and_comm]

/-- Files that are taken out one after the other may as well be taken out at once. -/
theorem Item.withoutFiles_withoutFiles (item : Item) (p q : MediaFile → Bool) :
    (item.withoutFiles p).withoutFiles q = item.withoutFiles fun f => p f || q f := by
  let first := item.linked.without p
  -- a file that is left in the end was left after the first step
  have hverdicts : ((item.report.files.filter fun id _ => first.files.any (·.file.id == id)).filter
        fun id _ => (first.without q).files.any (·.file.id == id))
      = item.report.files.filter fun id _ => (first.without q).files.any (·.file.id == id) := by
    refine SortedTable.ext ?_
    show List.filter _ (List.filter _ _) = List.filter _ _
    rw [List.filter_filter]
    refine List.filter_congr fun e _ => ?_
    rw [Bool.and_eq_left_iff_imp, List.any_eq_true, List.any_eq_true]
    rintro ⟨f, hf, hid⟩
    exact ⟨f, (List.mem_filter.1 hf).1, hid⟩
  calc (item.withoutFiles p).withoutFiles q
      = .of (first.without q) (.ofFiles (first.without q)
          ((item.report.files.filter fun id _ => first.files.any (·.file.id == id)).filter
            fun id _ => (first.without q).files.any (·.file.id == id))) := rfl
    _ = .of (first.without q) (.ofFiles (first.without q)
          (item.report.files.filter fun id _ =>
            (first.without q).files.any (·.file.id == id))) := by rw [hverdicts]
    _ = item.withoutFiles fun f => p f || q f := by
      rw [LinkedTitle.without_without]
      rfl

/-! ## Resolvers that look at the hosts only -/

section

variable {σ : Type} {r : TrackerResolver σ} {now : Instant} {s s' : σ}
  {answer : List String → Except TrackerError Tracker}

theorem snd_verdict_of_answersAt (h : r.AnswersAt s answer) (title : Title) (f : LinkedFile) :
    (f.verdict r now title s).2 = s := by
  cases ht : f.torrent with
  | none => simp only [LinkedFile.verdict, ht]
  | some t =>
    cases hanswer : answer t.trackers with
    | ok tracker => simp only [LinkedFile.verdict, ht, h t.trackers, hanswer]
    | error e =>
      simp only [LinkedFile.verdict, ht, h t.trackers, hanswer]
      split <;> rfl

/-- If a list of files can be judged, each of them can be judged by itself. -/
theorem exists_verdict (h : r.AnswersAt s answer) {title : Title} {files : List LinkedFile}
    {verdicts : List (Int64 × Verdict)}
    (hrun : verdictsOfFiles r now title files s = (.ok verdicts, s')) :
    ∀ f ∈ files, ∃ v, f.verdict r now title s = (.ok v, s) := by
  induction files generalizing verdicts s' with
  | nil => simp
  | cons f rest ih =>
    have hstate : (f.verdict r now title s).2 = s := snd_verdict_of_answersAt h title f
    rcases hf : f.verdict r now title s with ⟨e | v, s₁⟩
    · simp only [verdictsOfFiles, hf] at hrun
      cases hrun
    · rw [hf] at hstate
      obtain rfl : s₁ = s := hstate
      rcases hrest : verdictsOfFiles r now title rest s₁ with ⟨e | vs, s₂⟩
      · simp only [verdictsOfFiles, hf, hrest] at hrun
        cases hrun
      · rw [List.forall_mem_cons]
        exact ⟨⟨v, hf⟩, ih hrest⟩

theorem exists_verdicts_of_evaluate (h : r.AnswersAt s answer) {media : LinkedTitle}
    {report : Report} (hrun : media.evaluate r now s = (.ok report, s')) :
    ∃ verdict : LinkedFile → Verdict,
      ∀ f ∈ media.files, f.verdict r now media.title s = (.ok (verdict f), s) := by
  unfold LinkedTitle.evaluate at hrun
  split at hrun
  · cases hrun
  · rename_i verdicts s₁ hverdicts
    choose! verdict hverdict using exists_verdict h hverdicts
    exact ⟨verdict, hverdict⟩

/-- A title whose files have verdicts has the report that follows from them. -/
theorem evaluate_eq_ofFiles {media : LinkedTitle} {verdict : LinkedFile → Verdict}
    (h : ∀ f ∈ media.files, f.verdict r now media.title s = (.ok (verdict f), s)) :
    media.evaluate r now s
      = (.ok (.ofFiles media (.ofList (media.files.map fun f => (f.file.id, verdict f)))), s) := by
  unfold LinkedTitle.evaluate
  rw [verdictsOfFiles_eq_ok h]

end

/-! ## What is left of a report -/

/-- The verdicts on the files that stay are found among those on all files. -/
theorem Report.filter_files {media : LinkedTitle} {verdict : LinkedFile → Verdict}
    (hids : (media.files.map (·.file.id)).Nodup) (remove : MediaFile → Bool) :
    (SortedTable.ofList (media.files.map fun f => (f.file.id, verdict f))).filter
        (fun id _ => (media.without remove).files.any (·.file.id == id))
      = .ofList ((media.without remove).files.map fun f => (f.file.id, verdict f)) := by
  have hrest : ((media.without remove).files.map (·.file.id)).Nodup :=
    hids.sublist (List.filter_sublist.map _)
  refine SortedTable.ext_get? fun id => ?_
  rw [SortedTable.get?_filter]
  cases hany : (media.without remove).files.any (·.file.id == id) with
  | true =>
    obtain ⟨f, hf, hid⟩ := List.any_eq_true.1 hany
    obtain rfl := eq_of_beq hid
    rw [get?_files_of_nodup hids (List.mem_filter.1 hf).1, get?_files_of_nodup hrest hf,
      Option.filter_some, if_pos rfl]
  | false =>
    have hgone : (SortedTable.ofList ((media.without remove).files.map
        fun f => (f.file.id, verdict f))).get? id = none := by
      rw [← Option.not_isSome_iff_eq_none, SortedTable.isSome_get?_ofList]
      rintro ⟨v, hv⟩
      obtain ⟨f, hf, heq⟩ := List.mem_map.1 hv
      obtain ⟨rfl, -⟩ := Prod.mk.inj heq
      rw [List.any_eq_false] at hany
      exact hany f hf (beq_self_eq_true _)
    rw [hgone, Option.filter_eq_none_iff]
    simp

/-- What is left of an evaluated title without some of its files is what evaluating the rest of the
title gives. -/
theorem Item.withoutFiles_of_evaluate {σ : Type} {r : TrackerResolver σ} {s s' : σ}
    {answer : List String → Except TrackerError Tracker} (hanswer : r.AnswersAt s answer)
    {now : Instant} {media : LinkedTitle} (hids : (media.files.map (·.file.id)).Nodup)
    {report : Report} (h : media.evaluate r now s = (.ok report, s'))
    (remove : MediaFile → Bool) :
    ∃ report', (media.without remove).evaluate r now s = (.ok report', s') ∧
      (Item.of media report).withoutFiles remove = .of (media.without remove) report' := by
  obtain ⟨verdict, hverdict⟩ := exists_verdicts_of_evaluate hanswer h
  have hrest : ∀ f ∈ (media.without remove).files,
      f.verdict r now (media.without remove).title s = (.ok (verdict f), s) :=
    fun f hf => hverdict f (List.mem_filter.1 hf).1
  obtain ⟨hreport, rfl⟩ := Prod.mk.inj (h.symm.trans (evaluate_eq_ofFiles hverdict))
  obtain rfl := Except.ok.inj hreport
  refine ⟨_, evaluate_eq_ofFiles hrest, ?_⟩
  rw [← Report.filter_files hids remove]
  rfl

/-! ## A series whose second season has no torrent -/

namespace Sample

/-- Only the first season comes from the torrent, so the title as a whole names no tracker. -/
def halfLinked : LinkedTitle :=
  ⟨⟨6, .series, "Gamma", "", ⟨0, 0⟩⟩,
    [⟨⟨30, 1, "alpha.mkv", 100⟩, some torrent⟩, ⟨⟨31, 2, "extras.mkv", 200⟩, none⟩]⟩

end Sample

open Sample in
theorem tracker_named_without_second_season :
    (rules.item ⟨0, 0⟩ halfLinked).report.result.tracker = none ∧
    (rules.item ⟨0, 0⟩ halfLinked).report.seasons.keys = [1, 2] ∧
    ∃ report, (halfLinked.without (·.season == 2)).evaluate Trackers.resolver ⟨0, 0⟩ (.rules rules)
        = (.ok report, .rules rules) ∧
      (rules.item ⟨0, 0⟩ halfLinked).withoutFiles (·.season == 2)
        = .of (halfLinked.without (·.season == 2)) report ∧
      report.result.tracker = some ⟨"tracker", .ofNat 2, .ofSeconds 0⟩ ∧
      report.seasons.keys = [1] := by
  have hanswer := Trackers.resolver_answersAt rules
  have hevaluate : halfLinked.evaluate Trackers.resolver ⟨0, 0⟩ (.rules rules)
      = (.ok (rules.item ⟨0, 0⟩ halfLinked).report, .rules rules) := rfl
  obtain ⟨report, hreport, hitem⟩ :=
    Item.withoutFiles_of_evaluate hanswer (by decide) hevaluate (·.season == 2)
  have hkept : report = ((rules.item ⟨0, 0⟩ halfLinked).withoutFiles (·.season == 2)).report :=
    (congrArg Item.report hitem).symm
  refine ⟨rfl, rfl, report, hreport, hitem, ?_, ?_⟩
  · rw [hkept]
    rfl
  · rw [hkept]
    rfl

end SeedCleanup

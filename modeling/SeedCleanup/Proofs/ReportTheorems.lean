import SeedCleanup.Proofs.RetentionSafety

/-!
# The levels of a report

Evaluating a title asks the resolver about one linked file after the other, up to the first answer
that is a failure (`fst_verdictsOfFiles_eq_error_iff`). Otherwise the report has verdicts on the
files, and those on the seasons and on the title sum up the verdicts on their members
(`Report.SumsUp`): a tracker is named exactly when every member names an equal one.
-/

namespace SeedCleanup

/-! ## Equal trackers -/

namespace Tracker

variable {a b c : Tracker}

theorem same_iff : a.same b = true
    ↔ a.name = b.name ∧ a.minRatio.eqv b.minRatio = true ∧ a.minAge = b.minAge := by
  rw [same, Bool.and_eq_true, Bool.and_eq_true, beq_iff_eq, decide_eq_true_iff, and_assoc]

theorem same_symm (h : a.same b = true) : b.same a = true := by
  rw [same_iff, Binary64.eqv_iff] at *
  obtain ⟨hname, ⟨ha, hb, hplace⟩, hage⟩ := h
  exact ⟨hname.symm, ⟨hb, ha, hplace.symm⟩, hage.symm⟩

theorem same_trans (hab : a.same b = true) (hbc : b.same c = true) : a.same c = true := by
  rw [same_iff, Binary64.eqv_iff] at *
  obtain ⟨hname, ⟨ha, -, hplace⟩, hage⟩ := hab
  obtain ⟨hname', ⟨-, hc, hplace'⟩, hage'⟩ := hbc
  exact ⟨hname.trans hname', ⟨ha, hc, hplace.trans hplace'⟩, hage.trans hage'⟩

/-- A tracker whose ratio is a number is the same as itself. -/
theorem same_self (h : a.minRatio.isNaN = false) : a.same a = true :=
  same_iff.2 ⟨rfl, Binary64.eqv_iff.2 ⟨h, h, rfl⟩, rfl⟩

end Tracker

/-! ## The tracker of many verdicts -/

namespace Verdict

/-- A verdict names a tracker if the one that it carries is the same. -/
def Names (v : Verdict) (t : Tracker) : Prop := ∃ u, v.tracker = some u ∧ u.same t = true

/-- The ratio of the tracker that a verdict carries is a number. -/
def Comparable (v : Verdict) : Prop := ∀ u, v.tracker = some u → u.minRatio.isNaN = false

variable {v w : Verdict} {t : Tracker}

/-- Once a tracker is cleared it names none, so the verdict on two things together names what both
name. -/
theorem names_combine : (v.combine w).Names t ↔ v.Names t ∧ w.Names t := by
  have htracker : (v.combine w).tracker
      = if sameTracker v.tracker w.tracker then v.tracker else none := rfl
  constructor
  · rintro ⟨u, hu, hut⟩
    rw [htracker] at hu
    split at hu
    · rename_i hsame
      rw [hu] at hsame
      cases hw : w.tracker with
      | none =>
        rw [hw] at hsame
        cases hsame
      | some x =>
        rw [hw] at hsame
        have hux : u.same x = true := hsame
        exact ⟨⟨u, hu, hut⟩, x, hw, Tracker.same_trans (Tracker.same_symm hux) hut⟩
    · cases hu
  · rintro ⟨⟨u, hu, hut⟩, x, hx, hxt⟩
    have hsame : sameTracker v.tracker w.tracker = true := by
      rw [hu, hx]
      exact Tracker.same_trans hut (Tracker.same_symm hxt)
    refine ⟨u, ?_, hut⟩
    rw [htracker, if_pos hsame, hu]

theorem names_foldl_combine (rest : List Verdict) :
    (rest.foldl combine v).Names t ↔ v.Names t ∧ ∀ w ∈ rest, w.Names t := by
  induction rest generalizing v with
  | nil => simp
  | cons w rest ih => rw [List.foldl_cons, ih, names_combine, List.forall_mem_cons, and_assoc]

/-- The verdict on a list carries the tracker of its first member, or none. -/
theorem tracker_foldl_combine (rest : List Verdict) :
    (rest.foldl combine v).tracker = v.tracker ∨ (rest.foldl combine v).tracker = none := by
  induction rest generalizing v with
  | nil => exact .inl rfl
  | cons w rest ih =>
    have htracker : (v.combine w).tracker = v.tracker ∨ (v.combine w).tracker = none := by
      unfold combine
      split
      · exact .inl rfl
      · exact .inr rfl
    rw [List.foldl_cons]
    obtain hkept | hcleared := ih (v := v.combine w)
    · rw [hkept]
      exact htracker
    · exact .inr hcleared

/-- The verdict on a list names a tracker exactly when every member does. -/
theorem names_of_fold? {vs : List Verdict} (h : fold? vs = some v) :
    v.Names t ↔ ∀ w ∈ vs, w.Names t := by
  cases vs with
  | nil => cases h
  | cons w rest =>
    obtain rfl := Option.some.inj h
    rw [names_foldl_combine, List.forall_mem_cons]

theorem comparable_of_fold? {vs : List Verdict} (h : fold? vs = some v)
    (hvs : ∀ w ∈ vs, w.Comparable) : v.Comparable := by
  cases vs with
  | nil => cases h
  | cons w rest =>
    obtain rfl := Option.some.inj h
    intro u hu
    obtain hkept | hcleared := tracker_foldl_combine (v := w) rest
    · exact hvs w List.mem_cons_self u (hkept.symm.trans hu)
    · rw [hcleared] at hu
      cases hu

/-- A verdict that names no tracker carries none. -/
theorem Comparable.tracker_eq_none_iff (h : v.Comparable) : v.tracker = none ↔ ¬∃ t, v.Names t := by
  constructor
  · rintro hnone ⟨t, u, hu, -⟩
    rw [hnone] at hu
    cases hu
  · intro hnot
    cases hv : v.tracker with
    | none => rfl
    | some u => exact absurd ⟨u, u, hv, Tracker.same_self (h u hv)⟩ hnot

end Verdict

/-! ## Asking about one file after the other -/

section

variable {σ : Type} (r : TrackerResolver σ) (now : Instant)

/-- What a resolver answers about a file. It is not asked about a file without a torrent. -/
def LinkedFile.resolution (f : LinkedFile) (s : σ) :
    List (LinkedFile × Except TrackerError Tracker) × σ :=
  match f.torrent with
  | none => ([], s)
  | some t =>
    let (answer, s) := r.resolve s t.trackers
    ([(f, answer)], s)

/-- What a resolver answers about the files of a list, asked in their order. -/
def resolutions : List LinkedFile → σ → List (LinkedFile × Except TrackerError Tracker)
  | [], _ => []
  | f :: rest, s =>
    let (answers, s) := f.resolution r s
    answers ++ resolutions rest s

/-- An answer with which no verdict can be given: an error other than that no tracker is
configured. -/
def IsFailure : Except TrackerError Tracker → Prop
  | .ok _ => False
  | .error e => e.isNotFound = false

/-- The verdict on a file, given what the resolver answered about the files of its title. -/
inductive Judged (answers : List (LinkedFile × Except TrackerError Tracker)) (f : LinkedFile) :
    Verdict → Prop
  | unlinked (h : f.torrent = none) : Judged answers f ⟨.safeToDelete, none⟩
  | resolved {t : Torrent} {tracker : Tracker} (ht : f.torrent = some t)
      (h : (f, .ok tracker) ∈ answers) : Judged answers f (t.verdict tracker now)
  | notFound {t : Torrent} {e : TrackerError} (ht : f.torrent = some t)
      (h : (f, .error e) ∈ answers) (he : e.isNotFound = true) : Judged answers f ⟨.pending, none⟩

variable {r now}

theorem Judged.mono {answers answers' : List (LinkedFile × Except TrackerError Tracker)}
    {f : LinkedFile} {v : Verdict} (h : Judged now answers f v)
    (hsub : ∀ p ∈ answers, p ∈ answers') : Judged now answers' f v := by
  cases h with
  | unlinked h => exact .unlinked h
  | resolved ht h => exact .resolved ht (hsub _ h)
  | notFound ht h he => exact .notFound ht (hsub _ h) he

variable {title : Title} {s s' : σ}

variable (r now title s) in
/-- A file is judged by the answer about it, or the answer is a failure that names the file. -/
theorem verdict_cases (f : LinkedFile) :
    (∃ v, f.verdict r now title s = (.ok v, (f.resolution r s).2) ∧
      (∀ p ∈ (f.resolution r s).1, ¬IsFailure p.2) ∧ Judged now (f.resolution r s).1 f v) ∨
    ∃ e, f.verdict r now title s
        = (.error (.evaluation (f.described title) e), (f.resolution r s).2) ∧
      (f.resolution r s).1 = [(f, .error e)] ∧ IsFailure (.error e) := by
  cases ht : f.torrent with
  | none =>
    have hasked : f.resolution r s = ([], s) := by simp only [LinkedFile.resolution, ht]
    rw [hasked]
    refine .inl ⟨⟨.safeToDelete, none⟩, ?_, by simp, .unlinked ht⟩
    simp only [LinkedFile.verdict, ht]
  | some t =>
    rcases hanswer : r.resolve s t.trackers with ⟨e | tracker, s₁⟩
    · have hasked : f.resolution r s = ([(f, .error e)], s₁) := by
        simp only [LinkedFile.resolution, ht, hanswer]
      rw [hasked]
      cases he : e.isNotFound with
      | true =>
        refine .inl ⟨⟨.pending, none⟩, ?_, ?_, .notFound ht List.mem_cons_self he⟩
        · simp only [LinkedFile.verdict, ht, hanswer, he, if_true]
        · simp [IsFailure, he]
      | false =>
        refine .inr ⟨e, ?_, rfl, he⟩
        simp only [LinkedFile.verdict, ht, hanswer, he, Bool.false_eq_true, if_false]
    · have hasked : f.resolution r s = ([(f, .ok tracker)], s₁) := by
        simp only [LinkedFile.resolution, ht, hanswer]
      rw [hasked]
      refine .inl ⟨t.verdict tracker now, ?_, ?_, .resolved ht List.mem_cons_self⟩
      · simp only [LinkedFile.verdict, ht, hanswer]
      · simp [IsFailure]

/-- Judging files ends with the first answer that is a failure, and names the file. -/
theorem fst_verdictsOfFiles_eq_error_iff {files : List LinkedFile} {err : InventoryError} :
    (verdictsOfFiles r now title files s).1 = .error err
      ↔ ∃ f e, IsFirst (fun p => IsFailure p.2) (resolutions r files s) (f, .error e) ∧
        err = .evaluation (f.described title) e := by
  induction files generalizing s with
  | nil =>
    have hnone : ¬∃ p, IsFirst (fun p => IsFailure p.2) (resolutions r [] s) p := by
      rw [exists_isFirst_iff]
      rintro ⟨p, hp, -⟩
      cases hp
    constructor
    · intro h
      cases h
    · rintro ⟨f, e, hfirst, -⟩
      exact absurd ⟨_, hfirst⟩ hnone
  | cons f rest ih =>
    obtain ⟨v, hv, hnot, -⟩ | ⟨e, he, hasked, hfailed⟩ := verdict_cases r now title s f
    · -- the file has a verdict, so the first failure is one of the rest
      have hrest : (verdictsOfFiles r now title (f :: rest) s).1 = .error err
          ↔ (verdictsOfFiles r now title rest (f.resolution r s).2).1 = .error err := by
        simp only [verdictsOfFiles, hv]
        rcases verdictsOfFiles r now title rest (f.resolution r s).2 with ⟨_ | _, s₂⟩
        · rfl
        · simp
      rw [hrest, ih, resolutions]
      simp only [isFirst_append hnot]
    · have hself : (verdictsOfFiles r now title (f :: rest) s).1
          = .error (.evaluation (f.described title) e) := by
        simp only [verdictsOfFiles, he]
      have hfirst (p : LinkedFile × Except TrackerError Tracker) :
          IsFirst (fun p => IsFailure p.2) (resolutions r (f :: rest) s) p ↔ p = (f, .error e) := by
        simp only [resolutions, hasked, List.cons_append, List.nil_append, isFirst_cons]
        simp [hfailed]
      rw [hself]
      constructor
      · intro heq
        exact ⟨f, e, (hfirst _).2 rfl, (Except.error.inj heq).symm⟩
      · rintro ⟨g, e', hg, rfl⟩
        obtain ⟨rfl, heq⟩ := Prod.mk.inj ((hfirst _).1 hg)
        rw [Except.error.inj heq]

/-- If all files of a list can be judged, each of them has the verdict that goes with the answer
about it. -/
theorem exists_judged {files : List LinkedFile} {verdicts : List (Int64 × Verdict)}
    (hids : (files.map (·.file.id)).Nodup)
    (h : verdictsOfFiles r now title files s = (.ok verdicts, s')) :
    ∃ verdict : LinkedFile → Verdict, verdicts = files.map (fun f => (f.file.id, verdict f)) ∧
      ∀ f ∈ files, Judged now (resolutions r files s) f (verdict f) := by
  induction files generalizing s s' verdicts with
  | nil =>
    obtain rfl := Except.ok.inj (Prod.mk.inj h).1
    exact ⟨fun _ => .ofNothing, rfl, by simp⟩
  | cons f rest ih =>
    obtain ⟨hf, hrest⟩ := List.nodup_cons.1 hids
    obtain ⟨v, hv, -, hjudged⟩ | ⟨e, he, -, -⟩ := verdict_cases r now title s f
    · rcases hvs : verdictsOfFiles r now title rest (f.resolution r s).2 with ⟨e | vs, s₂⟩
      · simp only [verdictsOfFiles, hv, hvs] at h
        cases h
      · simp only [verdictsOfFiles, hv, hvs] at h
        obtain rfl := Except.ok.inj (Prod.mk.inj h).1
        obtain ⟨verdict, rfl, hverdict⟩ := ih hrest hvs
        -- no file of the rest has the id of the first one
        have hne : ∀ g ∈ rest, g ≠ f := by
          rintro g hg rfl
          exact hf (List.mem_map_of_mem hg)
        refine ⟨Function.update verdict f v, ?_, ?_⟩
        · rw [List.map_cons, Function.update_self]
          refine congrArg _ (List.map_congr_left fun g hg => ?_)
          rw [Function.update_of_ne (hne g hg)]
        · rw [List.forall_mem_cons, Function.update_self]
          refine ⟨hjudged.mono fun p hp => List.mem_append_left _ hp, fun g hg => ?_⟩
          rw [Function.update_of_ne (hne g hg)]
          exact (hverdict g hg).mono fun p hp => List.mem_append_right _ hp
    · simp only [verdictsOfFiles, he] at h
      cases h

end

/-! ## The levels of a report -/

namespace Report

/-- All of some files, and at least one, have verdicts that name a tracker. -/
def AllName (report : Report) (members : List LinkedFile) (t : Tracker) : Prop :=
  members ≠ [] ∧ ∀ f ∈ members, ∃ v, report.files.get? f.file.id = some v ∧ v.Names t

/-- A verdict sums up those on its members: all may go only if each may, and a tracker is named if
all members name it. It carries no tracker otherwise. -/
structure SumsUp (report : Report) (members : List LinkedFile) (v : Verdict) : Prop where
  decision_iff : v.decision = .safeToDelete
    ↔ ∀ f ∈ members, report.decisionOn f = some .safeToDelete
  names_iff : ∀ t, v.Names t ↔ report.AllName members t
  tracker_eq_none_iff : v.tracker = none ↔ ¬∃ t, report.AllName members t

theorem sumsUp_nil (report : Report) : report.SumsUp [] .ofNothing where
  decision_iff := by simp [Verdict.ofNothing]
  names_iff t := by simp [Verdict.Names, Verdict.ofNothing, AllName]
  tracker_eq_none_iff := by simp [Verdict.ofNothing, AllName]

theorem sumsUp_of_fold? {report : Report} {members : List LinkedFile} {verdict : LinkedFile → Verdict}
    (hget : ∀ f ∈ members, report.files.get? f.file.id = some (verdict f))
    (hcomparable : ∀ f ∈ members, (verdict f).Comparable) {v : Verdict}
    (h : Verdict.fold? (members.map verdict) = some v) : report.SumsUp members v := by
  have hne : members ≠ [] := by
    rintro rfl
    cases h
  have hnames (t : Tracker) : v.Names t ↔ report.AllName members t := by
    rw [Verdict.names_of_fold? h, List.forall_mem_map, AllName, and_iff_right hne]
    refine forall₂_congr fun f hf => ?_
    rw [hget f hf]
    simp
  refine ⟨?_, hnames, ?_⟩
  · rw [Verdict.decision_of_fold? h, Decision.worstOf_eq_safeToDelete_iff, List.map_map,
      List.forall_mem_map]
    refine forall₂_congr fun f hf => ?_
    rw [decisionOn, hget f hf]
    simp
  · have hv : v.Comparable := Verdict.comparable_of_fold? h (List.forall_mem_map.2 hcomparable)
    rw [hv.tracker_eq_none_iff]
    simp only [hnames]

/-- What a report says on each of its levels, given what the resolver answered about the files. -/
structure Levels (report : Report) (media : LinkedTitle) (now : Instant)
    (answers : List (LinkedFile × Except TrackerError Tracker)) : Prop where
  mem_files_iff : ∀ id, id ∈ report.files.keys ↔ ∃ f ∈ media.files, f.file.id = id
  file : ∀ f ∈ media.files, ∃ v, report.files.get? f.file.id = some v ∧ Judged now answers f v
  mem_seasons_iff : ∀ n, n ∈ report.seasons.keys
    ↔ media.title.kind = .series ∧ 0 < n ∧ ∃ f ∈ media.files, f.file.season = n
  season : ∀ n v, report.seasons.get? n = some v →
    report.SumsUp (media.files.filter (·.file.season == n)) v
  title : report.SumsUp media.files report.result

variable {media : LinkedTitle} {files : SortedTable Int64 Verdict} {verdict : LinkedFile → Verdict}

/-- The verdict on a season is that on its files. -/
theorem get?_seasons_eq_fold? (hget : ∀ f ∈ media.files, files.get? f.file.id = some (verdict f))
    (n : Int32) :
    (ofFiles media files).seasons.get? n
      = if media.title.kind = .series ∧ 0 < n then
          Verdict.fold? ((media.files.filter (·.file.season == n)).map verdict)
        else none := by
  rw [get?_seasons, verdictsOn_eq_map hget]

theorem mem_keys_seasons_iff
    (hget : ∀ f ∈ media.files, files.get? f.file.id = some (verdict f)) {n : Int32} :
    n ∈ (ofFiles media files).seasons.keys
      ↔ media.title.kind = .series ∧ 0 < n ∧ ∃ f ∈ media.files, f.file.season = n := by
  rw [SortedTable.mem_keys_iff, get?_seasons_eq_fold? hget, ← and_assoc]
  by_cases hn : media.title.kind = .series ∧ 0 < n
  · rw [if_pos hn, and_iff_right hn, Option.isSome_iff_ne_none, Ne, Verdict.fold?_eq_none_iff,
      List.map_eq_nil_iff, List.filter_eq_nil_iff]
    simp
  · rw [if_neg hn]
    simp [hn]

theorem levels_ofFiles {now : Instant} {answers : List (LinkedFile × Except TrackerError Tracker)}
    (hget : ∀ f ∈ media.files, files.get? f.file.id = some (verdict f))
    (hkeys : ∀ id, id ∈ files.keys ↔ ∃ f ∈ media.files, f.file.id = id)
    (hjudged : ∀ f ∈ media.files, Judged now answers f (verdict f))
    (hcomparable : ∀ f ∈ media.files, (verdict f).Comparable) :
    (ofFiles media files).Levels media now answers where
  mem_files_iff := hkeys
  file f hf := ⟨verdict f, hget f hf, hjudged f hf⟩
  mem_seasons_iff n := mem_keys_seasons_iff hget
  season n v hv := by
    rw [get?_seasons_eq_fold? hget] at hv
    split at hv
    · refine sumsUp_of_fold? (fun f hf => ?_) (fun f hf => ?_) hv
      · exact hget f (List.mem_filter.1 hf).1
      · exact hcomparable f (List.mem_filter.1 hf).1
    · cases hv
  title := by
    have hresult : (ofFiles media files).result
        = (Verdict.fold? (media.files.map verdict)).getD .ofNothing := by
      rw [ofFiles, verdictsOn_eq_map hget, List.filter_true]
    rw [hresult]
    cases hfold : Verdict.fold? (media.files.map verdict) with
    | some v => exact sumsUp_of_fold? hget hcomparable hfold
    | none =>
      have hnil : media.files = [] := List.map_eq_nil_iff.1 (Verdict.fold?_eq_none_iff.1 hfold)
      rw [hnil]
      exact sumsUp_nil _

end Report

section

variable {σ : Type} {r : TrackerResolver σ} {now : Instant} {media : LinkedTitle} {s : σ}

theorem fst_evaluate_eq_error_iff {err : InventoryError} :
    (media.evaluate r now s).1 = .error err
      ↔ (verdictsOfFiles r now media.title media.files s).1 = .error err := by
  unfold LinkedTitle.evaluate
  rcases verdictsOfFiles r now media.title media.files s with ⟨_ | _, s'⟩
  · simp
  · simp

/-- A tracker that a file is judged by was among the answers. -/
theorem Judged.comparable {answers : List (LinkedFile × Except TrackerError Tracker)}
    (hnumbers : ∀ f tracker, (f, .ok tracker) ∈ answers → tracker.minRatio.isNaN = false)
    {f : LinkedFile} {v : Verdict} (h : Judged now answers f v) : v.Comparable := by
  intro u hu
  cases h with
  | unlinked => cases hu
  | resolved ht hanswer =>
    obtain rfl := Option.some.inj hu
    exact hnumbers f _ hanswer
  | notFound => cases hu

/-- Evaluating a title fails if and only if an answer about a linked file is a failure, and names the
first such file. Otherwise the report has a verdict on each file, on each season of a series to which
a file belongs, and on the title, and those on seasons and titles sum up the verdicts on files. -/
theorem LinkedTitle.levels_of_evaluate (r : TrackerResolver σ) (now : Instant) (media : LinkedTitle)
    (s : σ) :
    (∀ err, (media.evaluate r now s).1 = .error err
      ↔ ∃ f e, IsFirst (fun p => IsFailure p.2) (resolutions r media.files s) (f, .error e) ∧
        err = .evaluation (f.described media.title) e) ∧
    ((∃ err, (media.evaluate r now s).1 = .error err)
      ↔ ∃ p ∈ resolutions r media.files s, IsFailure p.2) ∧
    ((media.files.map (·.file.id)).Nodup →
      (∀ f tracker, (f, .ok tracker) ∈ resolutions r media.files s →
        tracker.minRatio.isNaN = false) →
      ∀ report, (media.evaluate r now s).1 = .ok report →
        report.Levels media now (resolutions r media.files s)) := by
  have hfails (err : InventoryError) : (media.evaluate r now s).1 = .error err
      ↔ ∃ f e, IsFirst (fun p => IsFailure p.2) (resolutions r media.files s) (f, .error e) ∧
        err = .evaluation (f.described media.title) e := by
    rw [fst_evaluate_eq_error_iff, fst_verdictsOfFiles_eq_error_iff]
  refine ⟨hfails, ?_, fun hids hnumbers report hreport => ?_⟩
  · rw [← exists_isFirst_iff]
    constructor
    · rintro ⟨err, herr⟩
      obtain ⟨f, e, hfirst, -⟩ := (hfails err).1 herr
      exact ⟨_, hfirst⟩
    · rintro ⟨⟨f, e | tracker⟩, hfirst⟩
      · exact ⟨_, (hfails _).2 ⟨f, e, hfirst, rfl⟩⟩
      · obtain ⟨before, after, -, hfailed, -⟩ := hfirst
        exact hfailed.elim
  · unfold LinkedTitle.evaluate at hreport
    rcases hrun : verdictsOfFiles r now media.title media.files s with ⟨e | verdicts, s'⟩
    · rw [hrun] at hreport
      cases hreport
    · rw [hrun] at hreport
      obtain rfl := Except.ok.inj hreport
      obtain ⟨verdict, rfl, hjudged⟩ := exists_judged hids hrun
      have hget : ∀ f ∈ media.files,
          (SortedTable.ofList (media.files.map fun f => (f.file.id, verdict f))).get? f.file.id
            = some (verdict f) := fun f hf => Report.get?_files_of_nodup hids hf
      refine Report.levels_ofFiles hget (fun id => ?_) hjudged
        fun f hf => (hjudged f hf).comparable hnumbers
      rw [SortedTable.mem_keys_iff, SortedTable.isSome_get?_ofList]
      simp

end

namespace Sample

/-- The first season comes from the torrent, the second only in part. -/
def partlyLinked : LinkedTitle :=
  ⟨⟨6, .series, "Gamma", "", ⟨0, 0⟩⟩,
    [⟨⟨30, 1, "first.mkv", 100⟩, some torrent⟩, ⟨⟨31, 2, "third.mkv", 100⟩, some torrent⟩,
      ⟨⟨32, 1, "second.mkv", 100⟩, some torrent⟩, ⟨⟨33, 2, "fourth.mkv", 100⟩, none⟩,
      ⟨⟨34, -1, "extras.mkv", 100⟩, none⟩]⟩

end Sample

open Sample in
theorem levels_of_partlyLinked :
    (partlyLinked.files.map (·.file.id)).Nodup ∧
    (∀ f tracker, (f, .ok tracker) ∈ resolutions Trackers.resolver partlyLinked.files (.rules rules) →
      tracker.minRatio.isNaN = false) ∧
    ∃ report, (partlyLinked.evaluate Trackers.resolver ⟨0, 0⟩ (.rules rules)).1 = .ok report ∧
      report.Levels partlyLinked ⟨0, 0⟩
        (resolutions Trackers.resolver partlyLinked.files (.rules rules)) ∧
      report.AllName (partlyLinked.files.filter (·.file.season == 1))
        ⟨"tracker", .ofNat 2, .ofSeconds 0⟩ ∧
      ¬∃ t, report.AllName partlyLinked.files t := by
  have hids : (partlyLinked.files.map (·.file.id)).Nodup := by decide
  have hnumbers : ∀ f tracker,
      (f, .ok tracker) ∈ resolutions Trackers.resolver partlyLinked.files (.rules rules) →
      tracker.minRatio.isNaN = false := by
    have hall : ∀ p ∈ resolutions Trackers.resolver partlyLinked.files (.rules rules),
        p.2 = .ok ⟨"tracker", .ofNat 2, .ofSeconds 0⟩ := by decide
    intro f tracker hanswer
    obtain rfl := Except.ok.inj (hall _ hanswer)
    rfl
  obtain ⟨-, -, hlevels⟩ :=
    LinkedTitle.levels_of_evaluate Trackers.resolver ⟨0, 0⟩ partlyLinked (.rules rules)
  have h := hlevels hids hnumbers _ rfl
  refine ⟨hids, hnumbers, _, rfl, h, ?_, ?_⟩
  · exact ((h.season 1 _ rfl).names_iff _).1 ⟨_, rfl, rfl⟩
  · exact h.title.tracker_eq_none_iff.1 rfl

end SeedCleanup

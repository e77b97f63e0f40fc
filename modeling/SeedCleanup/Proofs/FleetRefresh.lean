import SeedCleanup.Media.Manager
import SeedCleanup.Proofs.FleetTheorems
import SeedCleanup.Torrent.Manager

/-!
# Refreshes that take over everything or nothing

A fleet asks all of its sources. It takes over what they report if none of them fails, and otherwise
it holds what it held and says which of them failed (`Fleet.TakesAllOrNothing`). That is so for
libraries and for clients alike (`refresh_takes_all_or_nothing`).
-/

namespace SeedCleanup

/-! ## Errors that are joined -/

namespace SourceError

/-- The error of some failures, of which each is told by a text: that of a single one, or one that
holds all of them in order. -/
inductive Tells : List String → SourceError → Prop
  | single (text : String) : Tells [text] (api text)
  | several (texts : List String) (h : 2 ≤ texts.length) : Tells texts (multiple (texts.map api))

theorem leavesOfAll_map_api (texts : List String) :
    leavesOfAll (texts.map api) = texts.map api := by
  induction texts with
  | nil => rfl
  | cons text rest ih =>
    rw [List.map_cons, leavesOfAll, ih]
    rfl

variable {texts : List String} {e : SourceError}

theorem Tells.leaves_eq (h : Tells texts e) : e.leaves = texts.map api := by
  cases h with
  | single text => rfl
  | several texts hlen =>
    obtain ⟨text, rest, rfl⟩ :=
      List.exists_cons_of_length_pos (Nat.lt_of_lt_of_le Nat.zero_lt_two hlen)
    exact leavesOfAll_map_api (text :: rest)

theorem Tells.ne_nil (h : Tells texts e) : texts ≠ [] := by
  rintro rfl
  cases h with
  | several _ hlen => exact absurd hlen (Nat.not_succ_le_zero 1)

theorem Tells.isNotFound_eq (h : Tells texts e) : e.isNotFound = false := by
  cases h <;> rfl

theorem Tells.message_eq (h : Tells texts e) :
    e.message = "; ".intercalate (texts.map ("API error: " ++ ·)) := by
  rw [message, h.leaves_eq, List.map_map]
  rfl

theorem join_map_api (texts : List String) :
    texts = [] ∧ join (texts.map api) = .ok () ∨
      ∃ e, join (texts.map api) = .error e ∧ Tells texts e := by
  match texts with
  | [] => exact .inl ⟨rfl, rfl⟩
  | [text] => exact .inr ⟨_, rfl, .single text⟩
  | first :: second :: rest => exact .inr ⟨_, rfl, .several _ (Nat.le_add_left 2 rest.length)⟩

end SourceError

/-- The error of an answer that is one. -/
def SourceError.of? {α : Type} : Except SourceError α → Option SourceError
  | .ok _ => none
  | .error e => some e

theorem SourceError.of?_eq_some_iff {α : Type} {answer : Except SourceError α} {e : SourceError} :
    of? answer = some e ↔ answer = .error e := by
  cases answer <;> simp [of?]

theorem Except.toOption_eq_some_iff {ε α : Type} {answer : Except ε α} {a : α} :
    answer.toOption = some a ↔ answer = .ok a := by
  cases answer <;> simp [Except.toOption]

namespace Fleet

/-! ## What sources answer -/

/-- The values that belong to keys, in the order of the keys. -/
structure ListsByKey {κ α : Type} [Ord κ] (P : κ → α → Prop) (l : List (κ × α)) : Prop where
  ascending : Ascending l
  mem_iff : ∀ key a, (key, a) ∈ l ↔ P key a

theorem listsByKey_filterMap {κ α γ : Type} [Ord κ] [BEq κ] [LawfulBEq κ] [Std.LawfulEqOrd κ]
    (t : SortedTable κ α) (g : α → Option γ) :
    ListsByKey (fun key c => ∃ a, t.get? key = some a ∧ g a = some c)
      (t.entries.filterMap fun e => (g e.2).map (e.1, ·)) := by
  refine ⟨t.ascending.filterMap _ ?_, fun key c => ?_⟩
  · intro a b hlt a' ha' b' hb'
    obtain ⟨-, -, rfl⟩ := Option.map_eq_some_iff.1 ha'
    obtain ⟨-, -, rfl⟩ := Option.map_eq_some_iff.1 hb'
    exact hlt
  · rw [List.mem_filterMap]
    constructor
    · rintro ⟨⟨key', a⟩, hmem, heq⟩
      obtain ⟨c', hc', heq⟩ := Option.map_eq_some_iff.1 heq
      obtain ⟨rfl, rfl⟩ := Prod.mk.inj heq
      exact ⟨a, SortedTable.mem_entries_iff.1 hmem, hc'⟩
    · rintro ⟨a, ha, hc⟩
      exact ⟨(key, a), SortedTable.mem_entries_iff.2 ha, by rw [hc, Option.map_some]⟩

section

variable {κ σ β δ : Type} [Ord κ] {rules : FleetRules κ β δ} {source : Source σ β δ}
  {f : Fleet κ σ β}

/-- The errors of the sources that fail when all are asked, in the order of the keys. -/
def failing (source : Source σ β δ) (f : Fleet κ σ β) : List (κ × SourceError) :=
  f.sources.entries.filterMap fun e =>
    (SourceError.of? (source.fetch.run e.2).1).map (e.1, ·)

/-- The lists of the sources that report something when all are asked, in the order of the keys. -/
def reporting (source : Source σ β δ) (f : Fleet κ σ β) : List (κ × List β) :=
  f.sources.entries.filterMap fun e => (source.fetch.run e.2).1.toOption.map (e.1, ·)

theorem failing_eq_nil_iff :
    f.failing source = [] ↔ ∀ e ∈ f.sources.entries, ∃ l, (source.fetch.run e.2).1 = .ok l := by
  rw [failing, List.filterMap_eq_nil_iff]
  refine forall₂_congr fun e _ => ?_
  cases (source.fetch.run e.2).1 <;> simp [SourceError.of?]

theorem failures_eq : failures rules (f.answers source)
    = ((f.failing source).map fun a =>
        "could not get " ++ rules.subject a.1 ++ ": " ++ a.2.message).map .api := by
  rw [failures, answers, failing, SortedTable.mapValues, List.filterMap_map, List.map_map,
    List.map_filterMap]
  refine List.filterMap_congr fun e _ => ?_
  dsimp only [Function.comp_apply]
  cases (source.fetch.run e.2).1 <;> rfl

/-- When no source fails, all of them report something. -/
theorem entries_reports (h : f.failing source = []) :
    (reports (f.answers source)).entries = f.reporting source := by
  have hentries : (reports (f.answers source)).entries = f.sources.entries.map fun e =>
      (e.1, (source.fetch.run e.2).1.toOption.getD []) := by
    simp only [reports, answers, SortedTable.mapValues, List.map_map]
    refine List.map_congr_left fun e _ => ?_
    dsimp only [Function.comp_apply]
    cases (source.fetch.run e.2).1 <;> rfl
  rw [hentries, reporting, ← List.filterMap_eq_map]
  refine List.filterMap_congr fun e he => ?_
  obtain ⟨l, hl⟩ := failing_eq_nil_iff.1 h e he
  rw [Function.comp_apply, hl]
  rfl

/-- A refresh takes over what all sources report, or it fails with what the failing ones say. -/
theorem refreshNow_cases (rules : FleetRules κ β δ) (source : Source σ β δ) (f : Fleet κ σ β) :
    f.failing source = [] ∧ f.refreshNow rules source
        = (.ok (), { f.asked source with entries := some (reports (f.answers source)) }) ∨
      ∃ e, f.refreshNow rules source = (.error e, f.asked source) ∧
        SourceError.Tells ((f.failing source).map fun a =>
          "could not get " ++ rules.subject a.1 ++ ": " ++ a.2.message) e := by
  obtain ⟨hnil, hjoin⟩ | ⟨e, hjoin, htells⟩ := SourceError.join_map_api
    ((f.failing source).map fun a => "could not get " ++ rules.subject a.1 ++ ": " ++ a.2.message)
  · rw [← failures_eq] at hjoin
    exact .inl ⟨List.map_eq_nil_iff.1 hnil, by rw [refreshNow, hjoin]⟩
  · rw [← failures_eq] at hjoin
    exact .inr ⟨e, by rw [refreshNow, hjoin], htells⟩

/-! ## Refreshes -/

/-- The source that a fleet keeps under a key: the last one that was given for it. -/
def IsKept (given : List (κ × σ)) (key : κ) (s : σ) : Prop :=
  ∃ before after, given = before ++ (key, s) :: after ∧ ∀ e ∈ after, e.1 ≠ key

variable [BEq κ]

/-- What a refresh of a fleet does that was given some sources and held something before: all
sources are asked, and either everything that they report is listed afterwards or nothing is taken
over. A failure is told for each source that failed, under what `about` says of its key. -/
structure TakesAllOrNothing (rules : FleetRules κ β δ) (source : Source σ β δ)
    (about : κ → String) (given : List (κ × σ)) (held : Option (SortedTable κ (List β)))
    (answer : Except SourceError Unit) (f : Fleet κ σ β) : Prop where
  asked : ∀ key s, IsKept given key s → f.sources.get? key = some (source.fetch.run s).2
  ok_iff : answer = .ok () ↔ ∀ key s, IsKept given key s → ∃ l, (source.fetch.run s).1 = .ok l
  taken : answer = .ok () → ∃ reported,
    ListsByKey (fun key l => ∃ s, IsKept given key s ∧ (source.fetch.run s).1 = .ok l) reported ∧
      (contents rules source).run f = (.ok (reported.flatMap (·.2)), f)
  kept : ∀ e, answer = .error e → f.entries = held
  told : ∀ e, answer = .error e → ∃ failed,
    ListsByKey (fun key e => ∃ s, IsKept given key s ∧ (source.fetch.run s).1 = .error e) failed ∧
      SourceError.Tells (failed.map fun a => about a.1 ++ ": " ++ a.2.message) e ∧
      e.isNotFound = false ∧
      e.message = "; ".intercalate
        (failed.map fun a => "API error: " ++ (about a.1 ++ ": " ++ a.2.message))

variable [LawfulBEq κ]

theorem get?_asked (key : κ) :
    (f.asked source).sources.get? key
      = (f.sources.get? key).map fun s => (source.fetch.run s).2 := by
  rw [asked, answers, SortedTable.get?_mapValues, SortedTable.get?_mapValues, Option.map_map]
  rfl

variable [Std.LawfulEqOrd κ]

theorem listsByKey_reporting :
    ListsByKey (fun key l => ∃ s, f.sources.get? key = some s ∧ (source.fetch.run s).1 = .ok l)
      (f.reporting source) := by
  unfold reporting
  simpa only [Except.toOption_eq_some_iff] using
    listsByKey_filterMap f.sources fun s => (source.fetch.run s).1.toOption

theorem listsByKey_failing :
    ListsByKey (fun key e => ∃ s, f.sources.get? key = some s ∧ (source.fetch.run s).1 = .error e)
      (f.failing source) := by
  unfold failing
  simpa only [SourceError.of?_eq_some_iff] using
    listsByKey_filterMap f.sources fun s => SourceError.of? (source.fetch.run s).1

theorem takesAllOrNothing_refreshNow {about : κ → String} {given : List (κ × σ)}
    (habout : ∀ key, about key = "could not get " ++ rules.subject key)
    (hgiven : ∀ key s, f.sources.get? key = some s ↔ IsKept given key s) :
    TakesAllOrNothing rules source about given f.entries (f.refreshNow rules source).1
      (f.refreshNow rules source).2 := by
  have hasked : ∀ key s, IsKept given key s →
      (f.asked source).sources.get? key = some (source.fetch.run s).2 := by
    intro key s hs
    rw [get?_asked, (hgiven key s).2 hs, Option.map_some]
  have hfailing : f.failing source = [] ↔
      ∀ key s, IsKept given key s → ∃ l, (source.fetch.run s).1 = .ok l := by
    rw [failing_eq_nil_iff, Prod.forall]
    simp only [SortedTable.mem_entries_iff, hgiven]
  have hreporting : ListsByKey
      (fun key l => ∃ s, IsKept given key s ∧ (source.fetch.run s).1 = .ok l)
      (f.reporting source) := by
    simpa only [hgiven] using f.listsByKey_reporting
  have hfailed : ListsByKey
      (fun key e => ∃ s, IsKept given key s ∧ (source.fetch.run s).1 = .error e)
      (f.failing source) := by
    simpa only [hgiven] using f.listsByKey_failing
  obtain ⟨hnil, hrefresh⟩ | ⟨e, hrefresh, htells⟩ := refreshNow_cases rules source f
  · have hok (e : SourceError) : (.ok () : Except SourceError Unit) ≠ .error e := by simp
    rw [hrefresh]
    refine ⟨hasked, ⟨fun _ => hfailing.1 hnil, fun _ => rfl⟩, fun _ => ?_,
      fun e he => absurd he (hok e), fun e he => absurd he (hok e)⟩
    refine ⟨_, hreporting, ?_⟩
    rw [contents_run_of_entries rfl, SortedTable.values, entries_reports hnil]
    rfl
  · have htells : SourceError.Tells
        ((f.failing source).map fun a => about a.1 ++ ": " ++ a.2.message) e := by
      simpa only [habout] using htells
    have hsome : ¬∀ key s, IsKept given key s → ∃ l, (source.fetch.run s).1 = .ok l := by
      rw [← hfailing]
      exact mt List.map_eq_nil_iff.2 htells.ne_nil
    have herror : (.error e : Except SourceError Unit) ≠ .ok () := by simp
    rw [hrefresh]
    refine ⟨hasked, ⟨fun h => absurd h herror, fun h => absurd h hsome⟩,
      fun h => absurd h herror, fun _ _ => rfl, fun e' he' => ?_⟩
    obtain rfl := Except.error.inj he'
    refine ⟨_, hfailed, htells, htells.isNotFound_eq, ?_⟩
    rw [htells.message_eq, List.map_map]
    rfl

variable [Std.TransOrd κ]

/-- What is found under a key is the last source that was given for it. -/
theorem get?_ofList_eq_some_iff {given : List (κ × σ)} {key : κ} {s : σ} :
    (SortedTable.ofList given).get? key = some s ↔ IsKept given key s := by
  rw [SortedTable.get?_ofList, List.lookup_eq_some_iff]
  constructor
  · rintro ⟨after, before, heq, hafter⟩
    refine ⟨before.reverse, after.reverse, ?_, fun e he => ?_⟩
    · rw [List.reverse_eq_iff.1 heq, List.reverse_append, List.reverse_cons, List.append_assoc]
      rfl
    · exact (bne_iff_ne.1 (hafter e (List.mem_reverse.1 he))).symm
  · rintro ⟨before, after, rfl, hafter⟩
    refine ⟨after.reverse, before.reverse, ?_, fun e he => ?_⟩
    · rw [List.reverse_append, List.reverse_cons, List.append_assoc]
      rfl
    · exact bne_iff_ne.2 (hafter e (List.mem_reverse.1 he)).symm

theorem takesAllOrNothing_refresh {about : κ → String}
    (habout : ∀ key, about key = "could not get " ++ rules.subject key) (given : List (κ × σ))
    (held : Option (SortedTable κ (List β))) :
    let refreshed := (refresh rules source).run
      { (ofSources given : Fleet κ σ β) with entries := held }
    TakesAllOrNothing rules source about given held refreshed.1 refreshed.2 := by
  let f : Fleet κ σ β := { (ofSources given : Fleet κ σ β) with entries := held }
  have hgiven : ∀ key s, f.sources.get? key = some s ↔ IsKept given key s :=
    fun _ _ => get?_ofList_eq_some_iff
  exact takesAllOrNothing_refreshNow habout hgiven

end

end Fleet

/-- A refresh of libraries or of clients asks every source that is kept. If all of them answer, what
they report is listed afterwards, in the order of their kinds or names; otherwise what was held is
still held, and each source that failed is named. -/
theorem refresh_takes_all_or_nothing :
    (∀ {σ : Type} (library : MediaSource σ) (given : List (MediaKind × σ))
        (held : Option (SortedTable MediaKind (List MediaEntry))),
      let refreshed := (Libraries.manager library).refresh.run
        { (Fleet.ofSources given : Libraries σ) with entries := held }
      Fleet.TakesAllOrNothing Libraries.rules library
        (fun kind => "could not get media entries for type " ++ kind.word) given held
        refreshed.1 refreshed.2) ∧
    ∀ {τ : Type} (client : TorrentSource τ) (given : List (String × τ))
        (held : Option (SortedTable String (List Torrent))),
      let refreshed := (Clients.manager client).refresh.run
        { (Fleet.ofSources given : Clients τ) with entries := held }
      Fleet.TakesAllOrNothing Clients.rules client
        (fun name => "could not get torrent entries for client " ++ Text.quoted name) given held
        refreshed.1 refreshed.2 := by
  refine ⟨fun library given held => ?_, fun client given held => ?_⟩
  · have habout (kind : MediaKind) : "could not get media entries for type " ++ kind.word
        = "could not get " ++ Libraries.rules.subject kind := by
      show _ = "could not get " ++ ("media entries for type " ++ kind.word)
      rw [← String.append_assoc]
      rfl
    exact Fleet.takesAllOrNothing_refresh habout given held
  · have habout (name : String) : "could not get torrent entries for client " ++ Text.quoted name
        = "could not get " ++ Clients.rules.subject name := by
      show _ = "could not get " ++ ("torrent entries for client " ++ Text.quoted name)
      rw [← String.append_assoc]
      rfl
    exact Fleet.takesAllOrNothing_refresh habout given held

end SeedCleanup

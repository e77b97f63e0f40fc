import SeedCleanup.Proofs.CallTheorems
import SeedCleanup.Proofs.LinkTheorems
import SeedCleanup.Proofs.RefreshTheorems
import SeedCleanup.Proofs.RetentionTheorems

/-!
# Files that are still seeded stay

From the answers of the managers to the published items: a file is marked as one that may go exactly
when no torrent explains it, or the first torrent that does has met the first rule for its hosts.
-/

namespace SeedCleanup

/-- Whether a file may go, read off the torrents and the configured rules. -/
def MediaFile.MayGo (compilePattern : String → Except Regex.PatternError (String → Bool))
    (configs : List TrackerRule) (torrents : List Torrent) (now : Instant) (f : MediaFile) : Prop :=
  (∀ t ∈ torrents, ¬t.Links f) ∨
    ∃ t, IsFirst (·.Links f) torrents t ∧
      ∃ r, IsFirst (·.Matches compilePattern t.trackers) configs r ∧ r.IsMet t now

section

variable {compilePattern : String → Except Regex.PatternError (String → Bool)}
  {configs : List TrackerRule} {rules : TrackerRules} {torrents : List Torrent} {now : Instant}

/-- Rules judge a linked file by the first torrent that explains it. -/
theorem decision_verdictOn_link_iff
    (hrules : TrackerRule.compileAll compilePattern configs = .ok rules) {f : MediaFile} :
    (rules.verdictOn now (f.link torrents)).decision = .safeToDelete
      ↔ f.MayGo compilePattern configs torrents now := by
  rw [TrackerRules.decision_verdictOn_iff hrules, torrent_link_eq_none_iff, MediaFile.MayGo]
  simp only [torrent_link_eq_some_iff]

/-- The item that rules make of a linked title. -/
def TrackerRules.item (rules : TrackerRules) (now : Instant) (media : LinkedTitle) : Item :=
  .of media (.ofFiles media
    (.ofList (media.files.map fun f => (f.file.id, rules.verdictOn now f))))

theorem decisionOn_item {media : LinkedTitle} (hids : (media.files.map (·.file.id)).Nodup)
    {f : LinkedFile} (hf : f ∈ media.files) :
    (rules.item now media).report.decisionOn f = some (rules.verdictOn now f).decision := by
  exact congrArg (Option.map (·.decision)) (Report.get?_files_of_nodup hids hf)

theorem decision_result_item {media : LinkedTitle} (hids : (media.files.map (·.file.id)).Nodup) :
    (rules.item now media).report.result.decision = .safeToDelete
      ↔ ∀ f ∈ media.files, (rules.verdictOn now f).decision = .safeToDelete := by
  show (Report.ofFiles media _).result.decision = _ ↔ _
  rw [Report.decision_result, Decision.worstOf_eq_safeToDelete_iff,
    Report.verdictsOn_eq_map fun f hf => Report.get?_files_of_nodup hids hf]
  simp

end

namespace Inventory

variable {μ τ : Type}

/-- After a refresh that published items, the items are the titles with files that the media manager
answered when it was asked for what it holds, and each file and each title is marked as one that may
go exactly when it may, given the torrents that the other manager answered. -/
theorem refresh_marks_what_may_go
    {compilePattern : String → Except Regex.PatternError (String → Bool)}
    {configs : List TrackerRule} {rules : TrackerRules}
    (hrules : TrackerRule.compileAll compilePattern configs = .ok rules)
    {b : Backends μ τ Trackers} (hb : b.trackers = Trackers.resolver)
    {s s' : Inventory μ τ Trackers} (hs : s.trackers = .rules rules)
    {now : Instant} {items : List Item} (h : s.refresh b now = (.ok items, s')) :
    s'.items = some items ∧
    ∃ media torrents m t folder,
      b.torrents.renew b.habits s.folder s.torrents = (.ok (), t, folder) ∧
      b.media.renew b.habits folder s.media = (.ok (), m, s'.folder) ∧
      b.media.contents.run m = (.ok media, s'.media) ∧
      b.torrents.contents.run t = (.ok torrents, s'.torrents) ∧
      (items.map fun item => (item.linked.title, item.linked.files.map (·.file)))
        = ((media.filter fun e => !e.files.isEmpty).map fun e => (e.title, e.files)) ∧
      ((∀ e ∈ media, (e.files.map (·.id)).Nodup) →
        ∀ item ∈ items,
          (∀ f ∈ item.linked.files, item.report.decisionOn f = some .safeToDelete
            ↔ f.file.MayGo compilePattern configs torrents now) ∧
          (item.report.result.decision = .safeToDelete
            ↔ ∀ f ∈ item.linked.files, f.file.MayGo compilePattern configs torrents now)) := by
  obtain @⟨t, _, m, _, folder, _, media, torrents, _, ht, hm, hheld, hfound, hl⟩ :=
    refreshed_of_refresh h
  have hanswers : b.trackers.AnswersAt s.trackers rules.resolve := by
    rw [hb, hs]
    exact Trackers.resolver_answersAt rules
  rw [Item.ofLinked_eq_ok fun m _ => TrackerRules.evaluate_eq_ok hanswers m] at hl
  obtain ⟨hmade, -⟩ := Prod.mk.inj hl
  obtain rfl : (linkMedia media torrents).map (rules.item now) = items := Except.ok.inj hmade
  refine ⟨rfl, media, torrents, m, t, folder, ht, hm, Call.run_of_within_eq_ok hheld,
    Call.run_of_within_eq_ok hfound, ?_, fun hunique item hitem => ?_⟩
  · simp only [linkMedia, List.map_map, Function.comp_def, TrackerRules.item, Item.of,
      MediaFile.link, List.map_id']
  · obtain ⟨linked, hlinked, rfl⟩ := List.mem_map.1 hitem
    obtain ⟨e, he, -, heq⟩ := mem_linkMedia.1 hlinked
    have hids : (linked.files.map (·.file.id)).Nodup := by
      rw [heq, List.map_map]
      exact hunique e he
    have hsafe : ∀ f ∈ linked.files, (rules.verdictOn now f).decision = .safeToDelete
        ↔ f.file.MayGo compilePattern configs torrents now := by
      intro f hf
      rw [heq] at hf
      obtain ⟨g, -, rfl⟩ := List.mem_map.1 hf
      exact decision_verdictOn_link_iff hrules
    refine ⟨fun f hf => ?_, ?_⟩
    · rw [decisionOn_item hids (show f ∈ linked.files from hf), Option.some.injEq]
      exact hsafe f hf
    · rw [decision_result_item hids]
      exact forall₂_congr hsafe

end Inventory

/-! ## A movie with a file that is still seeded -/

namespace Sample

/-- Patterns that match one host. -/
def exactly (pattern : String) : Except Regex.PatternError (String → Bool) := .ok (· == pattern)

/-- A rule that asks for twice the data. -/
def rule : TrackerRule := ⟨"tracker", "tracker.org", .ofNat 2, 0⟩

def rules : TrackerRules := [((· == "tracker.org"), ⟨"tracker", .ofNat 2, .ofSeconds 0⟩)]

def seeded : MediaFile := ⟨10, -1, "alpha.mkv", 100⟩

def unlinked : MediaFile := ⟨11, -1, "extras.mkv", 200⟩

def movie : MediaEntry := ⟨⟨1, .movie, "Alpha", "", ⟨0, 0⟩⟩, [seeded, unlinked]⟩

/-- The torrent of the first file, which gave back what it took once. -/
def torrent : Torrent := ⟨"qbit", "a", "alpha.mkv", .ofNat 1, ⟨0, 0⟩, ["tracker.org"], []⟩

def backends : Backends StandInLibrary StandInClient Trackers :=
  ⟨StandInLibrary.manager, StandInClient.manager, Trackers.resolver, ⟨.live false, none, ""⟩⟩

def inventory : Inventory StandInLibrary StandInClient Trackers where
  media := { backend := [movie] }
  torrents := { backend := [torrent] }
  trackers := .rules rules

end Sample

open Sample in
theorem seeded_stays_and_unlinked_may_go :
    TrackerRule.compileAll exactly [rule] = .ok rules ∧
    (∃ items s', inventory.refresh backends ⟨0, 0⟩ = (.ok items, s')) ∧
    ¬seeded.MayGo exactly [rule] [torrent] ⟨0, 0⟩ ∧
    unlinked.MayGo exactly [rule] [torrent] ⟨0, 0⟩ := by
  have hrules : TrackerRule.compileAll exactly [rule] = .ok rules := rfl
  obtain ⟨-, media, torrents, m, t, folder, ht, hm, hheld, hfound, -, h⟩ :=
    Inventory.refresh_marks_what_may_go hrules (b := backends) rfl (s := inventory) rfl
      (show inventory.refresh backends ⟨0, 0⟩ = (.ok [rules.item ⟨0, 0⟩ ⟨movie.title,
        movie.files.map (·.link [torrent])⟩], _) from rfl)
  cases ht
  cases hm
  cases hheld
  cases hfound
  obtain ⟨hfiles, -⟩ := h (by decide) _ List.mem_cons_self
  have hseeded := hfiles (seeded.link [torrent]) List.mem_cons_self
  have hunlinked := hfiles (unlinked.link [torrent]) (List.mem_cons_of_mem _ List.mem_cons_self)
  refine ⟨hrules, ⟨_, _, rfl⟩, fun hmay => ?_, hunlinked.1 rfl⟩
  cases hseeded.2 hmay

end SeedCleanup

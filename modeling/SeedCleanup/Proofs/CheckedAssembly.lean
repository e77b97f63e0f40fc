import SeedCleanup.Proofs.RuleOrder
import SeedCleanup.Proofs.SortedTableTheorems
import SeedCleanup.Startup.Run

/-!
# Putting checked configurations together

A configuration that was checked has no fault (`Config.faultWith?_eq_none_iff`). Then all its rules
are compiled, no client takes the name of another one, and there is a library, so that the program
is put together unless a library has no key (`Config.FitsTogether`). What cannot be put together
otherwise is found by the check.
-/

namespace SeedCleanup

variable {compilePattern : String → Except Regex.PatternError (String → Bool)}

/-! ## What the check finds -/

/-- No name is found to be repeated exactly if there is none, here or among those seen before. -/
theorem firstRepeated?_eq_none_iff {seen names : List String} :
    firstRepeated? seen names = none ↔ names.Nodup ∧ ∀ name ∈ names, name ∉ seen := by
  induction names generalizing seen with
  | nil => simp [firstRepeated?]
  | cons name rest ih =>
    rw [firstRepeated?, List.nodup_cons, List.forall_mem_cons]
    by_cases hname : name ∈ seen
    · simp [hname]
    · rw [if_neg (by simpa using hname), ih]
      constructor
      · rintro ⟨hnodup, hrest⟩
        have hnew : name ∉ rest := fun hmem => hrest name hmem List.mem_cons_self
        exact ⟨⟨hnew, hnodup⟩, hname, fun other hmem hseen =>
          hrest other hmem (List.mem_cons_of_mem _ hseen)⟩
      · rintro ⟨⟨hnew, hnodup⟩, -, hrest⟩
        refine ⟨hnodup, fun other hmem hseen => ?_⟩
        obtain rfl | hseen := List.mem_cons.1 hseen
        · exact hnew hmem
        · exact hrest other hmem hseen

/-- A rule has no fault exactly if it is compiled and its ratio is not below zero. -/
theorem TrackerRule.fault?_eq_none_iff {r : TrackerRule} :
    r.fault? compilePattern = none
      ↔ ¬r.Offends compilePattern ∧ Binary64.zero.le r.minRatio = true := by
  rw [Offends, ← minAge?_eq_none_iff, fault?]
  cases compilePattern r.pattern with
  | error reason => simp
  | ok test => cases Binary64.zero.le r.minRatio <;> cases r.minAge? <;> simp

namespace Config

/-- A configuration has no fault exactly if none of its parts has one. -/
theorem faultWith?_eq_none_iff {c : Config} :
    c.faultWith? compilePattern = none
      ↔ c.server.port ≠ 0 ∧ ¬(c.inventory.useCachedCopy = true ∧ c.inventory.persist = true) ∧
        (∀ r ∈ c.trackers, r.fault? compilePattern = none) ∧ (c.clients.map (·.name)).Nodup ∧
        (c.media.sonarr ≠ none ∨ c.media.radarr ≠ none) := by
  have hnames : firstRepeated? [] (c.clients.map (·.name)) = none
      ↔ (c.clients.map (·.name)).Nodup := by simp [firstRepeated?_eq_none_iff]
  rw [← List.findSome?_eq_none_iff, ← hnames, faultWith?]
  by_cases hport : c.server.port = 0
  · simp [hport]
  by_cases hboth : c.inventory.useCachedCopy = true ∧ c.inventory.persist = true
  · simp [hport, hboth]
  rw [if_neg hport, if_neg (by simpa using hboth)]
  cases c.trackers.findSome? (TrackerRule.fault? compilePattern) with
  | some fault => simp
  | none =>
    cases firstRepeated? [] (c.clients.map (·.name)) with
    | some name => simp
    | none => cases c.media.sonarr <;> cases c.media.radarr <;> simp [hport, hboth]

theorem check_eq_ok_iff {c : Config} :
    c.check = .ok () ↔ c.faultWith? SeedCleanup.compilePattern = none := by
  unfold check fault?
  cases c.faultWith? SeedCleanup.compilePattern <;> simp

theorem exists_fault_of_check_ne_ok {c : Config} (h : c.check ≠ .ok ()) :
    ∃ fault, c.check = .error (.invalid fault) := by
  rw [ne_eq, check_eq_ok_iff] at h
  obtain ⟨fault, hfault⟩ := Option.ne_none_iff_exists'.1 h
  exact ⟨fault, by rw [check, fault?, hfault]⟩

/-! ## What is put together -/

variable {c : Config}

/-- What is said of a library without a key. -/
def missingKey (kind : MediaKind) : AssemblyError :=
  .library kind.serverTitle (.authenticationFailed (kind.serverName ++ " API key is required"))

/-- The library of a section that has a key. -/
def libraryOf (c : Config) (s : MediaKind × LibrarySettings) : MediaKind × MediaBackend :=
  (s.1, .server ⟨s.1, s.2, c.dryRun⟩ .unplugged)

/-- Libraries are put together unless one has no key; the error is about the first of those. -/
theorem snd_assembleLibraries (l : List (MediaKind × LibrarySettings)) :
    (c.assembleLibraries l).2 =
      match l.find? (·.2.apiKey.isEmpty) with
      | some s => .error (missingKey s.1)
      | none => .ok (l.map c.libraryOf) := by
  induction l with
  | nil => rfl
  | cons s rest ih =>
    obtain ⟨kind, settings⟩ := s
    rw [List.find?_cons]
    cases hkey : settings.apiKey.isEmpty with
    | true => simp [assembleLibraries, ArrServer.ofSettings, hkey, missingKey]
    | false =>
      simp only [assembleLibraries, ArrServer.ofSettings, hkey, Bool.false_eq_true, if_false]
      cases hrest : c.assembleLibraries rest with
      | mk events result =>
        rw [hrest] at ih
        obtain rfl : result = _ := ih
        cases rest.find? (·.2.apiKey.isEmpty) <;> rfl

/-- With rules that are compiled, the program is put together unless a library has no key. -/
theorem snd_assemble {rules : TrackerRules} (hrules : TrackerRules.ofConfig c.trackers = .ok rules)
    (dir : String) :
    (c.assemble dir).2 =
      match c.librarySettings.find? (·.2.apiKey.isEmpty) with
      | some s => .error (missingKey s.1)
      | none => .ok ⟨.ofSources (c.librarySettings.map c.libraryOf), c.assembleClients, rules,
          c.inventory.habits dir⟩ := by
  have hlibraries := snd_assembleLibraries (c := c) c.librarySettings
  rw [assemble]
  cases h : c.assembleLibraries c.librarySettings with
  | mk events result =>
    rw [h] at hlibraries
    obtain rfl : result = _ := hlibraries
    cases c.librarySettings.find? (·.2.apiKey.isEmpty) with
    | some s => rfl
    | none => simp only [hrules]

theorem exists_mem_librarySettings_iff {s : LibrarySettings} :
    (∃ kind, (kind, s) ∈ c.librarySettings)
      ↔ c.media.sonarr = some s ∨ c.media.radarr = some s := by
  simp [librarySettings, exists_or]

/-- A library without a key is looked for in vain exactly if there is none. -/
theorem find?_librarySettings_eq_none_iff :
    c.librarySettings.find? (·.2.apiKey.isEmpty) = none
      ↔ ¬∃ s, (c.media.sonarr = some s ∨ c.media.radarr = some s) ∧ s.apiKey = "" := by
  rw [List.find?_eq_none]
  constructor
  · rintro hnone ⟨s, hs, hkey⟩
    obtain ⟨kind, hmem⟩ := exists_mem_librarySettings_iff.2 hs
    exact hnone _ hmem (String.isEmpty_iff.2 hkey)
  · rintro hnot ⟨kind, s⟩ hmem hkey
    exact hnot ⟨s, exists_mem_librarySettings_iff.1 ⟨kind, hmem⟩, String.isEmpty_iff.1 hkey⟩

theorem nodup_kinds_librarySettings : (c.librarySettings.map (·.1)).Nodup := by
  unfold librarySettings
  cases c.media.sonarr <;> cases c.media.radarr <;> simp

/-- How a configuration is put together: with one rule for each tracker and one client for each that
is configured, and with the libraries that are configured, of which there is at least one. Nothing
stops this but a library without a key. -/
structure FitsTogether (c : Config) (dir : String) : Prop where
  rules : ∃ rules, TrackerRules.ofConfig c.trackers = .ok rules ∧
    List.Forall₂ (fun r rule => r.compile SeedCleanup.compilePattern = .ok rule) c.trackers rules
  clients : c.assembleClients.sources.entries.Perm
    (c.clients.map fun s => (s.name, s.backendOf c.dryRun))
  error_iff : (∃ e, (c.assemble dir).2 = .error e)
    ↔ ∃ s, (c.media.sonarr = some s ∨ c.media.radarr = some s) ∧ s.apiKey = ""
  parts : ∀ a, (c.assemble dir).2 = .ok a →
    TrackerRules.ofConfig c.trackers = .ok a.rules ∧ a.clients = c.assembleClients ∧
      a.libraries.sources.keys.Perm (c.librarySettings.map (·.1)) ∧ a.libraries.sources.keys ≠ []

/-- The rules of a configuration without fault are compiled. -/
theorem exists_rules_of_check (h : c.check = .ok ()) :
    ∃ rules, TrackerRules.ofConfig c.trackers = .ok rules := by
  obtain ⟨-, -, htrackers, -⟩ := faultWith?_eq_none_iff.1 (check_eq_ok_iff.1 h)
  cases hrules : TrackerRules.ofConfig c.trackers with
  | ok rules => exact ⟨rules, rfl⟩
  | error e =>
    obtain ⟨r, hr, hoffends⟩ := TrackerRule.exists_compileAll_eq_error_iff.1 ⟨e, hrules⟩
    exact absurd hoffends (TrackerRule.fault?_eq_none_iff.1 (htrackers r hr)).1

theorem fitsTogether_of_check (h : c.check = .ok ()) (dir : String) : c.FitsTogether dir := by
  obtain ⟨-, -, -, hnames, hlibrary⟩ := faultWith?_eq_none_iff.1 (check_eq_ok_iff.1 h)
  obtain ⟨rules, hrules⟩ := exists_rules_of_check h
  have hassemble := snd_assemble hrules dir
  refine ⟨⟨rules, hrules, TrackerRule.forall₂_of_compileAll hrules⟩, ?_, ?_, ?_⟩
  · refine SortedTable.perm_entries_ofList ?_
    rw [List.map_map]
    exact hnames
  · rw [← not_iff_not, ← find?_librarySettings_eq_none_iff, hassemble]
    cases c.librarySettings.find? (·.2.apiKey.isEmpty) <;> simp
  · intro a ha
    rw [hassemble] at ha
    split at ha
    · cases ha
    · obtain rfl := Except.ok.inj ha
      have hkinds : (c.librarySettings.map c.libraryOf).map (·.1) = c.librarySettings.map (·.1) :=
        List.map_map
      have hkeys : (SortedTable.ofList (c.librarySettings.map c.libraryOf)).keys.Perm
          (c.librarySettings.map (·.1)) := by
        rw [← hkinds]
        exact SortedTable.perm_keys_ofList (hkinds ▸ nodup_kinds_librarySettings)
      refine ⟨hrules, rfl, hkeys, fun hnone => ?_⟩
      have hempty : c.librarySettings.map (·.1) = [] := (hnone ▸ hkeys).nil_eq.symm
      obtain hsome | hsome := hlibrary
      · simp [librarySettings, hsome] at hempty
      · simp [librarySettings, hsome] at hempty

/-- A configuration that was checked fits together. What could not be put together otherwise,
because a rule is refused or two clients have one name, does not pass the check. -/
theorem checked_config_fits_together (c : Config) (dir : String) :
    (c.check = .ok () → c.FitsTogether dir) ∧
      ((∃ e, TrackerRules.ofConfig c.trackers = .error e) ∨ ¬(c.clients.map (·.name)).Nodup →
        ∃ fault, c.check = .error (.invalid fault)) := by
  refine ⟨fun h => fitsTogether_of_check h dir, fun h => ?_⟩
  refine exists_fault_of_check_ne_ok fun hcheck => ?_
  obtain ⟨e, he⟩ | hnames := h
  · obtain ⟨rules, hrules⟩ := exists_rules_of_check hcheck
    exact nomatch he.symm.trans hrules
  · obtain ⟨-, -, -, hnodup, -⟩ := faultWith?_eq_none_iff.1 (check_eq_ok_iff.1 hcheck)
    exact hnames hnodup

end Config

/-! ## A configuration with one tracker, two clients and a library without a key -/

namespace Sample

def keyless : Config :=
  { trackers := [⟨"example", "org", .ofNat 1, 168⟩]
    media := {
      sonarr := some ⟨"http://series", "key", 30⟩
      radarr := some ⟨"http://movies", "", 30⟩ }
    clients := [
      { name := "one", backend := .qBittorrent, url := "http://one" },
      { name := "two", backend := .deluge, url := "http://two" }] }

/-- The second client has the name of the first. -/
def sameNames : Config :=
  { keyless with clients := [
      { name := "one", backend := .qBittorrent, url := "http://one" },
      { name := "one", backend := .deluge, url := "http://two" }] }

end Sample

set_option maxRecDepth 100000 in
open Sample in
theorem keyless_checked_but_not_assembled :
    keyless.check = .ok () ∧
    (∃ rules, TrackerRules.ofConfig keyless.trackers = .ok rules ∧ rules.length = 1) ∧
    keyless.assembleClients.sources.entries.length = 2 ∧
    (∃ e, (keyless.assemble "cache").2 = .error e) ∧
    ∃ fault, sameNames.check = .error (.invalid fault) := by
  have hpattern : (Regex.parse "org").toOption.isSome = true := by decide +kernel
  have hratio : Binary64.zero.le (.ofNat 1) = true := by decide
  have hcheck : keyless.check = .ok () := by
    rw [Config.check_eq_ok_iff, Config.faultWith?_eq_none_iff]
    refine ⟨by decide, by decide, ?_, by decide, by decide⟩
    intro r hr
    obtain rfl := List.mem_singleton.1 hr
    refine TrackerRule.fault?_eq_none_iff.2 ⟨?_, hratio⟩
    rintro (⟨reason, hreason⟩ | hage)
    · rw [compilePattern] at hreason
      cases hparse : Regex.parse "org" with
      | error e => exact absurd hpattern (by rw [hparse]; exact Bool.false_ne_true)
      | ok e => simp [hparse, Except.map] at hreason
    · exact absurd hage (by decide)
  have hfits := (Config.checked_config_fits_together keyless "cache").1 hcheck
  obtain ⟨rules, hrules, hall⟩ := hfits.rules
  refine ⟨hcheck, ⟨rules, hrules, hall.length_eq.symm⟩, hfits.clients.length_eq, ?_, ?_⟩
  · exact hfits.error_iff.2 ⟨_, .inr rfl, rfl⟩
  · exact (Config.checked_config_fits_together sameNames "cache").2 (.inr (by decide))

end SeedCleanup

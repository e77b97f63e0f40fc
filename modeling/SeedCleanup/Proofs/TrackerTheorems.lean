import SeedCleanup.Proofs.FirstMatch
import SeedCleanup.Tracker.Resolver

/-!
# Rules of trackers

Compiling the rules of a configuration keeps their number and order, so that the tracker of a list
of hosts can be read off the configuration: it is that of the first rule whose pattern matches a
host (`resolve_eq_ok_iff`).
-/

namespace SeedCleanup

namespace TrackerRule

variable {compilePattern : String → Except Regex.PatternError (String → Bool)}

/-- Whether the pattern of a rule matches one of some hosts. -/
def Matches (compilePattern : String → Except Regex.PatternError (String → Bool))
    (hosts : List String) (r : TrackerRule) : Prop :=
  ∃ test, compilePattern r.pattern = .ok test ∧ ∃ host ∈ hosts, test host = true

theorem compile_eq_ok_iff {r : TrackerRule} {rule : (String → Bool) × Tracker} :
    r.compile compilePattern = .ok rule
      ↔ compilePattern r.pattern = .ok rule.1 ∧
        ∃ age, r.minAge? = some age ∧ rule.2 = ⟨r.name, r.minRatio, age⟩ := by
  obtain ⟨test, tracker⟩ := rule
  unfold compile
  cases compilePattern r.pattern with
  | error e => simp
  | ok test' =>
    cases r.minAge? with
    | none => simp
    | some age => simp [eq_comm]

/-- Every rule of an accepted configuration is compiled, in order. -/
theorem forall₂_of_compileAll {configs : List TrackerRule} {rules : TrackerRules}
    (h : compileAll compilePattern configs = .ok rules) :
    List.Forall₂ (fun r rule => r.compile compilePattern = .ok rule) configs rules := by
  induction configs generalizing rules with
  | nil =>
    obtain rfl := Except.ok.inj h
    exact .nil
  | cons r configs ih =>
    unfold compileAll at h
    split at h
    · cases h
    · rename_i rule hrule
      split at h
      · cases h
      · rename_i rules' hrules'
        obtain rfl := Except.ok.inj h
        exact .cons hrule (ih hrules')

theorem matches_iff_of_compile {r : TrackerRule} {rule : (String → Bool) × Tracker}
    {hosts : List String} (h : r.compile compilePattern = .ok rule) :
    r.Matches compilePattern hosts ↔ hosts.any rule.1 = true := by
  obtain ⟨htest, -⟩ := compile_eq_ok_iff.1 h
  rw [Matches, htest, List.any_eq_true]
  constructor
  · rintro ⟨test, heq, hhost⟩
    rwa [Except.ok.inj heq]
  · intro hhost
    exact ⟨rule.1, rfl, hhost⟩

end TrackerRule

namespace TrackerRules

variable {compilePattern : String → Except Regex.PatternError (String → Bool)}
  {configs : List TrackerRule} {rules : TrackerRules}

/-- Rules name no tracker only because none of them matches. -/
theorem eq_notFound_of_resolve {hosts : List String} {e : TrackerError}
    (h : rules.resolve hosts = .error e) : e = .notFound hosts := by
  unfold resolve at h
  split at h
  · cases h
  · exact (Except.error.inj h).symm

/-- The tracker of some hosts is that of the first rule of the configuration that matches one of
them. -/
theorem resolve_eq_ok_iff (hrules : TrackerRule.compileAll compilePattern configs = .ok rules)
    {hosts : List String} {tracker : Tracker} :
    rules.resolve hosts = .ok tracker
      ↔ ∃ r age, IsFirst (·.Matches compilePattern hosts) configs r ∧ r.minAge? = some age ∧
        tracker = ⟨r.name, r.minRatio, age⟩ := by
  have hl := TrackerRule.forall₂_of_compileAll hrules
  constructor
  · intro h
    unfold resolve at h
    split at h
    · rename_i rule hfind
      obtain rfl := Except.ok.inj h
      obtain ⟨r, hr, hfirst⟩ := (find?_eq_some_iff_isFirst.1 hfind).of_forall₂ hl.flip
        fun rule r hr => (TrackerRule.matches_iff_of_compile hr).symm
      obtain ⟨-, age, hage, heq⟩ := TrackerRule.compile_eq_ok_iff.1 hr
      exact ⟨r, age, hfirst, hage, heq⟩
    · cases h
  · rintro ⟨r, age, hfirst, hage, rfl⟩
    obtain ⟨rule, hr, hfirst'⟩ := hfirst.of_forall₂ hl
      (q := fun rule => hosts.any rule.1 = true)
      fun r rule hr => TrackerRule.matches_iff_of_compile hr
    obtain ⟨-, age', hage', heq⟩ := TrackerRule.compile_eq_ok_iff.1 hr
    obtain rfl := Option.some.inj (hage.symm.trans hage')
    rw [resolve, find?_eq_some_iff_isFirst.2 hfirst', ← heq]

end TrackerRules

end SeedCleanup

import SeedCleanup.Proofs.TrackerTheorems

/-!
# The order of rules

The rules of a configuration are tried in their order, whatever the order of the hosts. What is told
of some hosts rests on which hosts there are; more hosts lead to the same rule or to one before it,
and rules that are added behind the others leave every answer as it was (`DecidesByOrder`). A
configuration is refused for its first rule whose pattern is none or whose time is too long
(`compileAll_eq_error_iff`).
-/

namespace SeedCleanup

namespace TrackerRule

variable {compilePattern : String → Except Regex.PatternError (String → Bool)}

/-! ## Rules that are refused -/

/-- The pattern of a rule is none, or its time has more milliseconds than a signed number of
sixty-four bits counts. -/
def Offends (compilePattern : String → Except Regex.PatternError (String → Bool))
    (r : TrackerRule) : Prop :=
  (∃ reason, compilePattern r.pattern = .error reason) ∨
    Int64.maxValue.toInt < r.minAgeHours.toNat * 3600000

/-- What is said of a rule that is refused. The pattern is looked at first. -/
inductive Refusal (compilePattern : String → Except Regex.PatternError (String → Bool))
    (r : TrackerRule) : TrackerError → Prop
  | pattern {reason : Regex.PatternError} (h : compilePattern r.pattern = .error reason) :
    Refusal compilePattern r (.invalidPattern r.name reason.message)
  | age {test : String → Bool} (h : compilePattern r.pattern = .ok test)
    (hage : r.minAge? = none) : Refusal compilePattern r (.invalidMinAge r.name r.minAgeHours)

theorem minAge?_eq_none_iff {r : TrackerRule} :
    r.minAge? = none ↔ Int64.maxValue.toInt < r.minAgeHours.toNat * 3600000 := by
  have hmax : Int64.maxValue.toInt = 9223372036854775807 := by decide
  rw [minAge?, Span.ofHours?, Span.maxHours, hmax]
  split
  · exact iff_of_false (Option.some_ne_none _) (by omega)
  · exact iff_of_true rfl (by omega)

theorem compile_eq_error_iff {r : TrackerRule} {e : TrackerError} :
    r.compile compilePattern = .error e ↔ r.Refusal compilePattern e := by
  unfold compile
  constructor
  · intro h
    split at h
    · rename_i reason hreason
      obtain rfl := Except.error.inj h
      exact .pattern hreason
    · rename_i test htest
      split at h
      · rename_i hage
        obtain rfl := Except.error.inj h
        exact .age htest hage
      · exact nomatch h
  · rintro (hreason | ⟨htest, hage⟩)
    · rw [hreason]
    · rw [htest, hage]

theorem exists_refusal_iff {r : TrackerRule} :
    (∃ e, r.Refusal compilePattern e) ↔ r.Offends compilePattern := by
  rw [Offends, ← minAge?_eq_none_iff]
  constructor
  · rintro ⟨_, hreason | ⟨htest, hage⟩⟩
    · exact .inl ⟨_, hreason⟩
    · exact .inr hage
  · rintro (⟨reason, hreason⟩ | hage)
    · exact ⟨_, .pattern hreason⟩
    · cases hpattern : compilePattern r.pattern with
      | error reason => exact ⟨_, .pattern hpattern⟩
      | ok test => exact ⟨_, .age hpattern hage⟩

/-- A rule is compiled or refused. -/
theorem not_offends_iff {r : TrackerRule} :
    ¬r.Offends compilePattern ↔ ∃ rule, r.compile compilePattern = .ok rule := by
  rw [← exists_refusal_iff]
  cases h : r.compile compilePattern with
  | error e =>
    have hrefusal := compile_eq_error_iff.1 h
    exact iff_of_false (fun hnone => hnone ⟨e, hrefusal⟩) (by simp)
  | ok rule =>
    refine iff_of_true ?_ ⟨rule, rfl⟩
    rintro ⟨e, hrefusal⟩
    exact nomatch h.symm.trans (compile_eq_error_iff.2 hrefusal)

/-- The error about a configuration is that about its first rule that offends. -/
theorem compileAll_eq_error_iff {configs : List TrackerRule} {e : TrackerError} :
    compileAll compilePattern configs = .error e
      ↔ ∃ r, IsFirst (·.Offends compilePattern) configs r ∧ r.Refusal compilePattern e := by
  induction configs with
  | nil =>
    refine iff_of_false (fun h => nomatch h) ?_
    rintro ⟨r, ⟨before, after, heq, -⟩, -⟩
    exact List.append_ne_nil_of_right_ne_nil before (List.cons_ne_nil r after) heq.symm
  | cons r configs ih =>
    simp only [isFirst_cons]
    cases hr : r.compile compilePattern with
    | error e' =>
      have hall : compileAll compilePattern (r :: configs) = .error e' := by rw [compileAll, hr]
      have hrefusal := compile_eq_error_iff.1 hr
      have hoffends : r.Offends compilePattern := exists_refusal_iff.1 ⟨e', hrefusal⟩
      rw [hall]
      constructor
      · intro h
        obtain rfl := Except.error.inj h
        exact ⟨r, .inl ⟨hoffends, rfl⟩, hrefusal⟩
      · rintro ⟨r', ⟨-, rfl⟩ | ⟨hnot, -⟩, hrefusal'⟩
        · rw [← compile_eq_error_iff, hr] at hrefusal'
          rw [Except.error.inj hrefusal']
        · exact absurd hoffends hnot
    | ok rule =>
      have hnot : ¬r.Offends compilePattern := not_offends_iff.2 ⟨rule, hr⟩
      have hall : compileAll compilePattern (r :: configs) = .error e
          ↔ compileAll compilePattern configs = .error e := by
        rw [compileAll, hr]
        cases compileAll compilePattern configs <;> simp
      simp only [hall, ih, hnot, false_and, not_false_eq_true, true_and, false_or]

/-- A configuration is refused only if one of its rules offends. -/
theorem exists_compileAll_eq_error_iff {configs : List TrackerRule} :
    (∃ e, compileAll compilePattern configs = .error e)
      ↔ ∃ r ∈ configs, r.Offends compilePattern := by
  rw [← exists_isFirst_iff]
  constructor
  · rintro ⟨e, he⟩
    obtain ⟨r, hfirst, -⟩ := compileAll_eq_error_iff.1 he
    exact ⟨r, hfirst⟩
  · rintro ⟨r, hfirst⟩
    obtain ⟨before, after, -, hoffends, -⟩ := id hfirst
    obtain ⟨e, hrefusal⟩ := exists_refusal_iff.2 hoffends
    exact ⟨e, compileAll_eq_error_iff.2 ⟨r, hfirst, hrefusal⟩⟩

/-! ## Hosts -/

theorem Matches.of_subset {r : TrackerRule} {hosts hosts' : List String} (hsubset : hosts ⊆ hosts')
    (h : r.Matches compilePattern hosts) : r.Matches compilePattern hosts' := by
  obtain ⟨test, htest, host, hhost, hfits⟩ := h
  exact ⟨test, htest, host, hsubset hhost, hfits⟩

/-- Whether a pattern matches rests on which hosts there are. -/
theorem matches_congr {hosts hosts' : List String} (h : ∀ host, host ∈ hosts ↔ host ∈ hosts') :
    Matches compilePattern hosts = Matches compilePattern hosts' := by
  funext r
  exact propext ⟨.of_subset fun host => (h host).1, .of_subset fun host => (h host).2⟩

end TrackerRule

namespace TrackerRules

/-! ## What is told of hosts -/

/-- A tracker is that of the rule at a place of the configuration: the rule matches one of the
hosts, and none before it does. -/
def NamedAt (compilePattern : String → Except Regex.PatternError (String → Bool))
    (configs : List TrackerRule) (hosts : List String) (i : Nat) (tracker : Tracker) : Prop :=
  ∃ r age, IsFirstAt (·.Matches compilePattern hosts) configs i r ∧ r.minAge? = some age ∧
    tracker = ⟨r.name, r.minRatio, age⟩

/-- The rules of a configuration decide by their order. -/
structure DecidesByOrder (compilePattern : String → Except Regex.PatternError (String → Bool))
    (configs : List TrackerRule) (rules : TrackerRules) : Prop where
  ok_iff : ∀ hosts tracker, rules.resolve hosts = .ok tracker
    ↔ ∃ i, NamedAt compilePattern configs hosts i tracker
  error_iff : ∀ hosts e, rules.resolve hosts = .error e
    ↔ e = .notFound hosts ∧ ∀ r ∈ configs, ¬r.Matches compilePattern hosts
  /-- Hosts in another order or repeated. -/
  same_hosts : ∀ hosts hosts', (∀ host, host ∈ hosts ↔ host ∈ hosts') →
    (∃ tracker, rules.resolve hosts = .ok tracker ∧ rules.resolve hosts' = .ok tracker) ∨
      rules.resolve hosts = .error (.notFound hosts) ∧
        rules.resolve hosts' = .error (.notFound hosts')
  more_hosts : ∀ hosts hosts', hosts ⊆ hosts' → ∀ i tracker,
    NamedAt compilePattern configs hosts i tracker → ∃ j ≤ i, ∃ tracker',
      NamedAt compilePattern configs hosts' j tracker' ∧ rules.resolve hosts' = .ok tracker'
  more_rules : ∀ more rules', TrackerRule.compileAll compilePattern (configs ++ more) = .ok rules' →
    ∀ hosts tracker, rules.resolve hosts = .ok tracker → rules'.resolve hosts = .ok tracker

variable {compilePattern : String → Except Regex.PatternError (String → Bool)}
  {configs : List TrackerRule} {rules : TrackerRules} {hosts hosts' : List String}

section

variable (hrules : TrackerRule.compileAll compilePattern configs = .ok rules)
include hrules

theorem resolve_eq_ok_iff_namedAt {tracker : Tracker} :
    rules.resolve hosts = .ok tracker ↔ ∃ i, NamedAt compilePattern configs hosts i tracker := by
  rw [resolve_eq_ok_iff hrules]
  constructor
  · rintro ⟨r, age, hfirst, hage, heq⟩
    obtain ⟨i, hi⟩ := isFirst_iff_exists_isFirstAt.1 hfirst
    exact ⟨i, r, age, hi, hage, heq⟩
  · rintro ⟨i, r, age, hi, hage, heq⟩
    exact ⟨r, age, isFirst_iff_exists_isFirstAt.2 ⟨i, hi⟩, hage, heq⟩

/-- The rule that is found has a tracker, because no rule with too long a time is accepted. -/
theorem exists_namedAt {i : Nat} {r : TrackerRule}
    (h : IsFirstAt (·.Matches compilePattern hosts) configs i r) :
    ∃ tracker, NamedAt compilePattern configs hosts i tracker := by
  obtain ⟨rule, hr, -⟩ := (isFirst_iff_exists_isFirstAt.2 ⟨i, h⟩).of_forall₂
    (TrackerRule.forall₂_of_compileAll hrules) (q := fun rule => hosts.any rule.1 = true)
    fun r rule hr => TrackerRule.matches_iff_of_compile hr
  obtain ⟨-, age, hage, -⟩ := TrackerRule.compile_eq_ok_iff.1 hr
  exact ⟨_, r, age, h, hage, rfl⟩

theorem resolve_eq_error_iff {e : TrackerError} :
    rules.resolve hosts = .error e
      ↔ e = .notFound hosts ∧ ∀ r ∈ configs, ¬r.Matches compilePattern hosts := by
  constructor
  · intro h
    refine ⟨eq_notFound_of_resolve h, fun r hr hmatches => ?_⟩
    obtain ⟨r', hfirst⟩ := exists_isFirst_iff.2 ⟨r, hr, hmatches⟩
    obtain ⟨i, hi⟩ := isFirst_iff_exists_isFirstAt.1 hfirst
    obtain ⟨tracker, hnamed⟩ := exists_namedAt hrules hi
    exact nomatch h.symm.trans ((resolve_eq_ok_iff_namedAt hrules).2 ⟨i, hnamed⟩)
  · rintro ⟨rfl, hnone⟩
    cases h : rules.resolve hosts with
    | error e => rw [eq_notFound_of_resolve h]
    | ok tracker =>
      obtain ⟨r, age, hfirst, -⟩ := (resolve_eq_ok_iff hrules).1 h
      obtain ⟨r', hr', hmatches⟩ := exists_isFirst_iff.1 ⟨r, hfirst⟩
      exact absurd hmatches (hnone r' hr')

theorem resolve_of_same_hosts (h : ∀ host, host ∈ hosts ↔ host ∈ hosts') {tracker : Tracker}
    (hok : rules.resolve hosts = .ok tracker) : rules.resolve hosts' = .ok tracker := by
  rw [resolve_eq_ok_iff hrules] at hok ⊢
  rwa [← TrackerRule.matches_congr h]

theorem decidesByOrder : DecidesByOrder compilePattern configs rules where
  ok_iff hosts tracker := resolve_eq_ok_iff_namedAt hrules
  error_iff hosts e := resolve_eq_error_iff hrules
  same_hosts hosts hosts' h := by
    cases hok : rules.resolve hosts with
    | ok tracker => exact .inl ⟨tracker, rfl, resolve_of_same_hosts hrules h hok⟩
    | error e =>
      obtain ⟨rfl, hnone⟩ := (resolve_eq_error_iff hrules).1 hok
      rw [TrackerRule.matches_congr h] at hnone
      exact .inr ⟨rfl, (resolve_eq_error_iff hrules).2 ⟨rfl, hnone⟩⟩
  more_hosts hosts hosts' hsubset i tracker := by
    rintro ⟨r, age, hfirst, -⟩
    obtain ⟨j, hle, r', hfirst'⟩ := hfirst.exists_le fun r => TrackerRule.Matches.of_subset hsubset
    obtain ⟨tracker', hnamed⟩ := exists_namedAt hrules hfirst'
    exact ⟨j, hle, tracker', hnamed, (resolve_eq_ok_iff_namedAt hrules).2 ⟨j, hnamed⟩⟩
  more_rules more rules' hrules' hosts tracker hok := by
    obtain ⟨r, age, hfirst, hage, heq⟩ := (resolve_eq_ok_iff hrules).1 hok
    exact (resolve_eq_ok_iff hrules').2 ⟨r, age, hfirst.append more, hage, heq⟩

end

/-- A configuration is refused exactly if one of its rules offends, and the error is about the first
of them. The rules of any other configuration decide by their order. -/
theorem first_rule_decides (compilePattern : String → Except Regex.PatternError (String → Bool))
    (configs : List TrackerRule) :
    ((∃ e, TrackerRule.compileAll compilePattern configs = .error e)
      ↔ ∃ r ∈ configs, r.Offends compilePattern) ∧
    (∀ e, TrackerRule.compileAll compilePattern configs = .error e →
      ∃ r, IsFirst (·.Offends compilePattern) configs r ∧ r.Refusal compilePattern e) ∧
    ∀ rules, TrackerRule.compileAll compilePattern configs = .ok rules →
      DecidesByOrder compilePattern configs rules := by
  refine ⟨TrackerRule.exists_compileAll_eq_error_iff, ?_, ?_⟩
  · intro e he
    exact TrackerRule.compileAll_eq_error_iff.1 he
  · intro rules hrules
    exact decidesByOrder hrules

end TrackerRules

/-! ## Rules that match the same hosts -/

namespace Sample

/-- Patterns that are the name of a host, or a star for all hosts. A bracket is none. -/
def hostOrStar (pattern : String) : Except Regex.PatternError (String → Bool) :=
  if pattern = "(" then .error .unclosedGroup
  else .ok fun host => pattern == "*" || host == pattern

/-- The rule of one tracker, and one for all others. -/
def strictAndAny : List TrackerRule :=
  [⟨"strict", "tracker.strict.org", .ofNat 2, 240⟩, ⟨"any", "*", .zero, 0⟩]

/-- A rule with too long a time before one whose pattern is none. -/
def tooLongAndUnclosed : List TrackerRule :=
  [⟨"any", "*", .zero, 0⟩, ⟨"forever", "*", .zero, 18446744073709551615⟩,
    ⟨"unclosed", "(", .zero, 0⟩]

def strictTracker : Tracker := ⟨"strict", .ofNat 2, .ofSeconds 864000⟩

end Sample

open Sample in
theorem strict_tracker_named_in_any_order :
    (∃ r, IsFirst (·.Offends hostOrStar) tooLongAndUnclosed r ∧
      r.Refusal hostOrStar (.invalidMinAge "forever" 18446744073709551615)) ∧
    ∃ rules, TrackerRule.compileAll hostOrStar strictAndAny = .ok rules ∧
      rules.resolve ["open.net", "tracker.strict.org"] = .ok strictTracker ∧
      rules.resolve ["tracker.strict.org", "open.net", "tracker.strict.org"]
        = .ok strictTracker := by
  refine ⟨(TrackerRules.first_rule_decides hostOrStar tooLongAndUnclosed).2.1 _ rfl, _, rfl, rfl,
    ?_⟩
  have horder := (TrackerRules.first_rule_decides hostOrStar strictAndAny).2.2 _ rfl
  obtain ⟨tracker, hfirst, hsecond⟩ | ⟨hnone, -⟩ := horder.same_hosts
    ["open.net", "tracker.strict.org"] ["tracker.strict.org", "open.net", "tracker.strict.org"]
    (by simp)
  · exact hsecond.trans hfirst.symm
  · exact nomatch hnone

end SeedCleanup

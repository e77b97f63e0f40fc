import SeedCleanup.Inventory.Retention
import SeedCleanup.Regex.Match
import SeedCleanup.Regex.Parser

/-!
# Finding the tracker of a torrent

A tracker is found by patterns: the rules are tried in their order, and the first whose pattern
matches a host decides. A stand-in finds trackers by the exact name of a host.
-/

namespace SeedCleanup

/-! ## Rules with patterns -/

/-- Rules in order: each with a test for hosts and the tracker that it names. -/
abbrev TrackerRules := List ((String → Bool) × Tracker)

namespace TrackerRules

/-- The tracker of a list of hosts: that of the first rule whose test some host passes. -/
def resolve (rules : TrackerRules) (hosts : List String) : Except TrackerError Tracker :=
  match rules.find? fun r => hosts.any r.1 with
  | some r => .ok r.2
  | none => .error (.notFound hosts)

/-- The resolver of a list of rules. -/
def resolver (rules : TrackerRules) : TrackerResolver Unit := .ofFunction rules.resolve

end TrackerRules

namespace TrackerRule

/-- The test and the tracker of a rule, given how patterns are compiled. -/
def compile (compilePattern : String → Except Regex.PatternError (String → Bool))
    (r : TrackerRule) : Except TrackerError ((String → Bool) × Tracker) :=
  match compilePattern r.pattern with
  | .error e => .error (.invalidPattern r.name e.message)
  | .ok test =>
    match r.minAge? with
    | none => .error (.invalidMinAge r.name r.minAgeHours)
    | some minAge => .ok (test, ⟨r.name, r.minRatio, minAge⟩)

/-- The tests and trackers of rules, up to the first that is not allowed. -/
def compileAll (compilePattern : String → Except Regex.PatternError (String → Bool)) :
    List TrackerRule → Except TrackerError TrackerRules
  | [] => .ok []
  | r :: rest =>
    match r.compile compilePattern with
    | .error e => .error e
    | .ok rule =>
      match compileAll compilePattern rest with
      | .error e => .error e
      | .ok rules => .ok (rule :: rules)

end TrackerRule

/-- The test that a regular expression is for hosts. -/
def compilePattern (pattern : String) : Except Regex.PatternError (String → Bool) :=
  (Regex.parse pattern).map fun e host => e.matchesIn host

/-- The rules of a configuration. -/
def TrackerRules.ofConfig (rules : List TrackerRule) : Except TrackerError TrackerRules :=
  TrackerRule.compileAll compilePattern rules

/-! ## A stand-in -/

/-- Trackers by exact host, in the order in which they were registered, and an error that the next
search meets. -/
structure StandInTrackers where
  trackers : List (String × Tracker) := []
  nextError : Option TrackerError := none
deriving Inhabited

namespace StandInTrackers

/-- The tracker of a list of hosts, unless an error is due. -/
def resolve (s : StandInTrackers) (hosts : List String) :
    Except TrackerError Tracker × StandInTrackers :=
  match s.nextError with
  | some e => (.error e, { s with nextError := none })
  | none =>
    match s.trackers.find? fun t => hosts.contains t.1 with
    | some t => (.ok t.2, s)
    | none => (.error (.notFound hosts), s)

/-- The resolver of a stand-in. -/
def resolver : TrackerResolver StandInTrackers := ⟨resolve⟩

end StandInTrackers

/-! ## Either of them -/

/-- How an inventory finds trackers. -/
inductive Trackers where
  | rules (rules : TrackerRules)
  | standIn (trackers : StandInTrackers)

namespace Trackers

/-- The tracker of a list of hosts. -/
def resolve (t : Trackers) (hosts : List String) : Except TrackerError Tracker × Trackers :=
  match t with
  | rules r => (r.resolve hosts, t)
  | standIn s =>
    let (answer, s) := s.resolve hosts
    (answer, standIn s)

/-- The resolver of either kind. -/
def resolver : TrackerResolver Trackers := ⟨resolve⟩

end Trackers

end SeedCleanup

import SeedCleanup.Config.Basic
import SeedCleanup.Tracker.Resolver

/-!
# Checking a configuration

A configuration that was read may still ask for something that cannot be done. The first fault in a
fixed order is reported.
-/

namespace SeedCleanup

/-- What a configuration cannot ask for. -/
inductive ConfigFault where
  | portZero
  | replayAndPersist
  | invalidPattern (tracker : String) (reason : String)
  | negativeRatio (tracker : String)
  | ageOutOfRange (tracker : String) (hours : UInt64)
  | duplicateClient (name : String)
  | noLibrary
deriving DecidableEq, Inhabited

/-- The message of a fault. -/
def ConfigFault.message : ConfigFault → String
  | portZero => "server.port cannot be 0"
  | replayAndPersist => "inventory.use_cached_copy and inventory.persist are mutually exclusive"
  | invalidPattern tracker reason =>
    "tracker " ++ Text.quoted tracker ++ " has an invalid pattern: " ++ reason
  | negativeRatio tracker => "tracker " ++ Text.quoted tracker ++ " min_ratio must be >= 0"
  | ageOutOfRange tracker hours =>
    "tracker " ++ Text.quoted tracker ++ " min_age_hours " ++ toString hours ++ " is out of range"
  | duplicateClient name => "duplicate torrent client name " ++ Text.quoted name
  | noLibrary => "at least one of media.sonarr or media.radarr must be configured"

/-- What is wrong with a rule, given how patterns are compiled. -/
def TrackerRule.fault? (compilePattern : String → Except Regex.PatternError (String → Bool))
    (r : TrackerRule) : Option ConfigFault :=
  match compilePattern r.pattern with
  | .error e => some (.invalidPattern r.name e.message)
  | .ok _ =>
    if !Binary64.zero.le r.minRatio then some (.negativeRatio r.name)
    else if r.minAge?.isNone then some (.ageOutOfRange r.name r.minAgeHours)
    else none

/-- The first name that some names or a list before it holds already. -/
def firstRepeated? (seen : List String) : List String → Option String
  | [] => none
  | name :: rest => if seen.contains name then some name else firstRepeated? (name :: seen) rest

namespace Config

/-- The first fault of a configuration, given how patterns are compiled. -/
def faultWith? (compilePattern : String → Except Regex.PatternError (String → Bool))
    (c : Config) : Option ConfigFault :=
  if c.server.port = 0 then some .portZero
  else if c.inventory.useCachedCopy && c.inventory.persist then some .replayAndPersist
  else
    match c.trackers.findSome? (TrackerRule.fault? compilePattern) with
    | some fault => some fault
    | none =>
      match firstRepeated? [] (c.clients.map (·.name)) with
      | some name => some (.duplicateClient name)
      | none => if c.media.sonarr.isNone && c.media.radarr.isNone then some .noLibrary else none

/-- The first fault of a configuration. -/
def fault? (c : Config) : Option ConfigFault := c.faultWith? compilePattern

end Config

end SeedCleanup

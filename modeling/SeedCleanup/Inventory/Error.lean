import SeedCleanup.Source.Error
import SeedCleanup.Tracker.Basic

/-!
# Failures of the inventory

What an operation of the inventory can answer instead of a result. A failed refresh names every
manager whose part failed.
-/

namespace SeedCleanup

/-- Why the operating system refused a file. -/
inductive FileError where
  | missing
  | isDirectory
  | alreadyExists
  | notDirectory
deriving DecidableEq, Inhabited

/-- The message of a refused file. -/
def FileError.message : FileError → String
  | missing => "No such file or directory (os error 2)"
  | isDirectory => "Is a directory (os error 21)"
  | alreadyExists => "File exists (os error 17)"
  | notDirectory => "Not a directory (os error 20)"

/-- Why an operation of the inventory failed. -/
inductive InventoryError where
  | malformedId (text : String)
  | mediaNotFound (text : String)
  | source (stage : String) (error : SourceError)
  /-- The managers whose refresh failed, each with its error. -/
  | refresh (failures : List (String × InventoryError))
  | evaluation (file : String) (error : TrackerError)
  | timeout (stage : String)
  | cacheFile (path : String) (error : FileError)
  | internal (text : String)
deriving Inhabited

namespace InventoryError

mutual

/-- The message of an error, given those of sources and trackers. -/
def describe (source : SourceError → String) (tracker : TrackerError → String) :
    InventoryError → String
  | malformedId text => "Malformed media id: " ++ Text.quoted text
  | mediaNotFound text => "Media not found: " ++ text
  | .source stage e => stage ++ " failed: " ++ source e
  | refresh failures =>
    "Refresh cache failed: " ++ "; ".intercalate (describeFailures source tracker failures)
  | evaluation file e =>
    "Could not resolve tracker for linked media file " ++ file ++ ": " ++ tracker e
  | timeout stage => stage ++ " timed out"
  | cacheFile path e => "Cache file " ++ path ++ ": " ++ e.message
  | internal text => "Internal error: " ++ text

/-- The messages of failed managers. -/
def describeFailures (source : SourceError → String) (tracker : TrackerError → String) :
    List (String × InventoryError) → List String
  | [] => []
  | (manager, e) :: rest =>
    (manager ++ ": " ++ describe source tracker e) :: describeFailures source tracker rest

end

/-- The message of an error. -/
def message (e : InventoryError) : String := e.describe SourceError.message TrackerError.message

end InventoryError

end SeedCleanup

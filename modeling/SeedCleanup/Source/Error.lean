/-!
# Failures of sources

What can go wrong when a backend is asked for its contents or told to delete some of them. Several
failures can be joined into one, whose message lists those of its leaves.
-/

namespace SeedCleanup

/-- Why a source or a manager failed. -/
inductive SourceError where
  | connectionFailed (text : String)
  | authenticationFailed (text : String)
  | notFound (text : String)
  | api (text : String)
  | serialization (text : String)
  | timeout
  | multiple (errors : List SourceError)
  | internal (text : String)
deriving Inhabited

namespace SourceError

/-- Whether an error means that the addressed item does not exist. A joined error never does. -/
def isNotFound : SourceError → Bool
  | notFound _ => true
  | _ => false

mutual

/-- The errors that were joined, from left to right. A join of no errors is a leaf of its own. -/
def leaves : SourceError → List SourceError
  | multiple (e :: rest) => leaves e ++ leavesOfAll rest
  | e => [e]

/-- The leaves of all errors of a list. -/
def leavesOfAll : List SourceError → List SourceError
  | [] => []
  | e :: rest => leaves e ++ leavesOfAll rest

end

/-- The message of an error that was not joined. -/
def leafMessage : SourceError → String
  | connectionFailed text => "Connection failed: " ++ text
  | authenticationFailed text => "Authentication failed: " ++ text
  | notFound text => "Not found: " ++ text
  | api text => "API error: " ++ text
  | serialization text => "Cache serialization failed: " ++ text
  | timeout => "Request timeout"
  | multiple _ => ""
  | internal text => "Internal error: " ++ text

/-- The message of an error: those of its leaves, joined by semicolons. -/
def message (e : SourceError) : String := "; ".intercalate (e.leaves.map leafMessage)

/-- No error at all, a single error as it is, or several errors as one. -/
def join : List SourceError → Except SourceError Unit
  | [] => .ok ()
  | [e] => .error e
  | errors => .error (.multiple errors)

end SourceError

end SeedCleanup

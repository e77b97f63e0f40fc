import SeedCleanup.Config.Check
import SeedCleanup.Config.Codec
import SeedCleanup.Config.Environment
import SeedCleanup.Toml.Reader

/-!
# Loading a configuration

A configuration comes from the text of a file, and the settings of the environment lie over it.
-/

namespace SeedCleanup

/-- Why there is no configuration. -/
inductive ConfigError where
  | fileNotFound (path : String)
  | unreadable
  | invalid (fault : ConfigFault)
deriving DecidableEq, Inhabited

/-- The message of an error, given what is said of a file that cannot be read. -/
def ConfigError.describe (unreadable : String) : ConfigError → String
  | .fileNotFound path => "Configuration file not found: " ++ path
  | .unreadable => "Failed to parse configuration: " ++ unreadable
  | .invalid fault => "Configuration validation failed: " ++ fault.message

namespace Config

/-- The configuration that a text holds. -/
def ofText (text : String) : Except ConfigError Config :=
  match (Toml.parse text).bind (ofJson? Toml.dialect) with
  | some c => .ok c
  | none => .error .unreadable

/-- The liberties of a document that was put together from a file and the environment. -/
def layered : Json.Dialect where
  longRecords := true
  isUnit j := match j with
    | .null => true
    | _ => false
  numberedVariants := true

/-- The configuration that the text of a file holds, under the settings of the environment. -/
def ofLayers (text : String) (vars : Environment.Variables) : Except ConfigError Config :=
  match Toml.parse text with
  | none => .error .unreadable
  | some j =>
    match ofJson? layered (Environment.overlay j (Environment.settings vars)) with
    | some c => .ok c
    | none => .error .unreadable

/-- Load the configuration from a file, given its text if it exists. -/
def load (path : String) (text : Option String) (vars : Environment.Variables) :
    Except ConfigError Config :=
  match text with
  | none => .error (.fileNotFound path)
  | some text => ofLayers text vars

/-- A configuration that can be followed. -/
def check (c : Config) : Except ConfigError Unit :=
  match c.fault? with
  | none => .ok ()
  | some fault => .error (.invalid fault)

end Config

end SeedCleanup

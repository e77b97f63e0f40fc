import SeedCleanup.Api.Reply
import SeedCleanup.Config.Load
import SeedCleanup.Digest.Sha256
import SeedCleanup.Startup.Assembly

/-!
# Starting the program

The program loads and checks its configuration, puts itself together and then listens. What stops it
is said in one line that leads from the step to the cause.
-/

namespace SeedCleanup

/-- What stops the program. -/
inductive StartupError where
  | load (path : String) (error : ConfigError)
  | invalid (error : ConfigError)
  | assembly (error : AssemblyError)
  | bind (address : String) (reason : String)
deriving Inhabited

/-- The message of what stops the program, given the messages of errors of a configuration. -/
def StartupError.describe (config : ConfigError → String) : StartupError → String
  | load path e => "Failed to load config from " ++ Text.quotedPath path ++ ": " ++ config e
  | invalid e => "Configuration validation failed: " ++ config e
  | assembly (.library name e) => "Failed to create " ++ name ++ " source: " ++ e.message
  | assembly (.trackers e) => "Failed to build tracker resolver: " ++ e.message
  | bind address reason => "Failed to bind to " ++ address ++ ": " ++ reason

/-- The variable that names the file of the configuration. -/
def configVariable : String := "SEEDWARDEN_CONFIG"

/-- The path of the configuration. -/
def configPath (vars : Environment.Variables) : String :=
  (Environment.get? vars configVariable).getD "config.toml"

/-- The text of an address with a port. -/
def ServerSettings.address (s : ServerSettings) : String :=
  match s.host with
  | .v4 .. => s.host.text ++ ":" ++ toString s.port
  | .v6 _ => "[" ++ s.host.text ++ "]:" ++ toString s.port

/-- The start of the digest of a configuration. -/
def Config.fingerprint (c : Config) : String := ((Digest.Sha256.hexOfText c.toJson.text).take 16).toString

/-- The program when it is ready to listen. -/
structure Program where
  config : Config
  assembly : Assembly

namespace Program

/-- What is said before the program is put together. -/
def firstEvents (c : Config) : List LogEvent :=
  ⟨.info, "seedwarden " ++ Api.version ++ " starting (config " ++ c.fingerprint ++ ")"⟩ ::
    if c.dryRun then [⟨.warn, "Dry run enabled: no files or torrents will be deleted"⟩] else []

/-- Check a configuration and put the program together. -/
def ofConfig (vars : Environment.Variables) (c : Config) :
    List LogEvent × Except StartupError Program :=
  match c.check with
  | .error e => ([], .error (.invalid e))
  | .ok () =>
    match c.assemble (c.inventory.snapshotDir vars) with
    | (events, .error e) => (firstEvents c ++ events, .error (.assembly e))
    | (events, .ok assembly) => (firstEvents c ++ events, .ok ⟨c, assembly⟩)

/-- Prepare the program, given the text of the file of its configuration if it exists. -/
def prepare (vars : Environment.Variables) (text : Option String) :
    List LogEvent × Except StartupError Program :=
  let path := configPath vars
  let first : LogEvent := ⟨.info, "Loading configuration from " ++ Text.quotedPath path⟩
  match Config.load path text vars with
  | .error e => ([first], .error (.load path e))
  | .ok c =>
    let (events, result) := ofConfig vars c
    (first :: events, result)

/-- Start the program: prepare it and try to listen, which may be refused for some reason. The
program stops if anything fails. -/
def start (vars : Environment.Variables) (text : Option String)
    (listen : ServerSettings → Except String Unit) :
    List LogEvent × Except StartupError Program :=
  match prepare vars text with
  | (events, .error e) => (events, .error e)
  | (events, .ok p) =>
    let address := p.config.server.address
    let events := events ++ [⟨.info, "Starting server on " ++ address⟩]
    match listen p.config.server with
    | .error reason => (events, .error (.bind address reason))
    | .ok () => (events, .ok p)

/-- What is said when the program stops. -/
def fatal (config : ConfigError → String) (e : StartupError) : LogEvent :=
  ⟨.error, "Fatal error: " ++ e.describe config⟩

end Program

end SeedCleanup

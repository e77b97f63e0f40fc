import SeedCleanup.Startup.Run

/-!
# The command line

Reads the environment and the file of the configuration, starts the program and says what it did.
What is said and whether it starts is decided elsewhere; here are only the readings and the printing.
-/

namespace SeedCleanup.Main

/-- The file in which the system keeps the environment of a process: entries with a zero byte behind
each. -/
def environmentFile : String := "/proc/self/environ"

/-- The entries of an environment, those left out that are no text. -/
def entries (block : ByteArray) : List String :=
  (block.toList.splitOn 0).filterMap fun bytes => String.fromUTF8? ⟨bytes.toArray⟩

/-- The environment of this process. -/
def readEnvironment : IO Environment.Variables := do
  let block ← IO.FS.readBinFile environmentFile
  return Environment.ofList ((entries block).filterMap Environment.entry?)

/-- The text of a file, if it can be read. -/
def readText? (path : String) : IO (Option String) := do
  try
    return some (← IO.FS.readFile path)
  catch _ =>
    return none

/-- This program answers requests and leaves it to others to carry them, so it listens nowhere. -/
def listen (_ : ServerSettings) : Except String Unit := .error "this program opens no sockets"

/-- Start the program once; the answer is the exit code. -/
def run : IO UInt32 := do
  let vars ← readEnvironment
  let text ← readText? (configPath vars)
  let (events, result) := Program.start vars text listen
  let filter := LogFilter.ofEnvironment vars
  let say (e : LogEvent) : IO Unit := do
    if filter.passes e then IO.println (e.line (wantsDocuments vars))
  events.forM say
  match result with
  | .ok _ => return 0
  | .error e =>
    say (Program.fatal (·.describe "the text cannot be read") e)
    return 1

end SeedCleanup.Main

/-- Run the program. -/
def main : IO UInt32 := SeedCleanup.Main.run

import SeedCleanup.Config.Environment
import SeedCleanup.Json.Printer
import SeedCleanup.Text.LetterTable

/-!
# What the program says while it starts

Events have levels, and the environment can ask for some levels only.
-/

namespace SeedCleanup

open SeedCleanup.Text

/-- How much an event matters. -/
inductive LogLevel where
  | error
  | warn
  | info
deriving DecidableEq, Inhabited

namespace LogLevel

/-- The word for a level. -/
def word : LogLevel → String
  | error => "ERROR"
  | warn => "WARN"
  | info => "INFO"

/-- How fine a filter must be to let a level through. -/
def fineness : LogLevel → Nat
  | error => 1
  | warn => 2
  | info => 3

end LogLevel

/-- Something that the program says. -/
structure LogEvent where
  level : LogLevel
  message : String
deriving DecidableEq, Inhabited

/-- The name under which the program speaks. -/
def logTarget : String := "seedwarden"

/-- The line that says an event, as a document or as plain text. -/
def LogEvent.line (e : LogEvent) (asDocument : Bool) : String :=
  if asDocument then
    (Json.obj [("level", .str e.level.word), ("fields", .obj [("message", .str e.message)]),
      ("target", .str logTarget)]).text
  else e.level.word ++ " " ++ logTarget ++ ": " ++ e.message

/-! ## Filters -/

/-- Which events are let through: for each start of a name how fine they may be. -/
abbrev LogFilter := List (String × Nat)

namespace LogFilter

/-- How fine a word lets events be. -/
def fineness? (word : List Char) : Option Nat :=
  [("off", 0), ("0", 0), ("error", 1), ("1", 1), ("warn", 2), ("2", 2), ("info", 3), ("3", 3),
    ("debug", 4), ("4", 4), ("trace", 5), ("5", 5)].lookup (String.ofList (word.map Char.toLower))

/-- Whether a part of a filter can start with a character. -/
def isNameStart (c : Char) : Bool :=
  c.isAlphanum || c == '-' || c == ':' || c == '_' || c == '[' ||
    inRanges letterRanges c.toNat || inRanges numberRanges c.toNat

/-- Reads one part of a filter: a level, the start of a name, or both with an equality sign between
them. A name alone, or with no level behind the sign, lets everything through. A part with a bracket
is about something else than events, and its name is the start of no name. -/
def directive? (s : List Char) : Option (String × Nat) :=
  if !((s.dropWhile isBlank).head?).any isNameStart then none
  else match cutFirst? '=' s with
    | some (name, []) => some (String.ofList name, 5)
    | some (name, level) => (fineness? level).map (String.ofList name, ·)
    | none =>
      match fineness? s with
      | some n => some ("", n)
      | none => some (String.ofList s, 5)

/-- Reads a filter. Without any part it lets only errors through. -/
def parse? (text : String) : Option LogFilter := do
  let parts := (splitOnChar ',' text.toList).filter fun part => !part.isEmpty
  let directives ← parts.mapM directive?
  some (if directives.isEmpty then [("", 1)] else directives)

/-- How fine the program's own events may be: the longest start of its name decides. -/
def ownFineness (f : LogFilter) : Nat :=
  let own := f.filter fun d => (afterStart? d.1.toList logTarget.toList).isSome
  (own.foldl (fun best d => if best.1 ≤ d.1.length then (d.1.length, d.2) else best) (0, 0)).2

/-- The filter of an environment. -/
def ofEnvironment (vars : Environment.Variables) : LogFilter :=
  ((Environment.get? vars "RUST_LOG").bind parse?).getD [("", 3)]

/-- Whether an event is let through. -/
def passes (f : LogFilter) (e : LogEvent) : Bool := decide (e.level.fineness ≤ f.ownFineness)

end LogFilter

/-- Whether the environment asks for events as documents. -/
def wantsDocuments (vars : Environment.Variables) : Bool :=
  (Environment.get? vars "SEEDWARDEN_LOG_FORMAT").any fun s =>
    s.toList.map Char.toLower == "json".toList

end SeedCleanup

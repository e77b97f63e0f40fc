import SeedCleanup.Json.Basic

/-!
# Tables of a configuration file

A file fills a tree of tables. A table remembers how it came to be, because a table may be opened by
a header only once and a table that was not made by dotted keys cannot be filled by them.
-/

namespace SeedCleanup.Toml

/-- How a table came to be. -/
inductive Origin where
  /-- By a header of its own. -/
  | header
  /-- By a header of a table below it. -/
  | path
  /-- By the dotted key of a value below it. -/
  | dotted
deriving DecidableEq, Inhabited

/-- What stands under a key. -/
inductive Node where
  | value (j : Json)
  | table (origin : Origin) (entries : List (String × Node))
  /-- Tables of one list, the latest first. -/
  | tables (list : List (List (String × Node)))
deriving Inhabited

/-- The entries of a table. -/
abbrev Entries := List (String × Node)

/-- The entries with one of them changed or, if it is missing, added at the end. -/
def alterEntry (key : String) (f : Option Node → Option Node) : Entries → Option Entries
  | [] => (f none).map fun n => [(key, n)]
  | e :: rest =>
    if e.1 = key then (f (some e.2)).map fun n => (key, n) :: rest
    else (alterEntry key f rest).map (e :: ·)

/-- Change the table at the end of a path. Missing tables are made with an origin. Nothing if a
value stands in the way. -/
def alterPath (made : Origin) (f : Origin → Entries → Option Entries) :
    List String → Origin → Entries → Option Entries
  | [], origin, entries => f origin entries
  | key :: path, _, entries =>
    alterEntry key (fun node =>
      match node with
      | none => (alterPath made f path made []).map (.table made)
      | some (.value _) => none
      | some (.table origin below) =>
        -- dotted keys do not fill a table that has a header
        if made = .dotted ∧ origin = .header then none
        else (alterPath made f path origin below).map (.table origin)
      | some (.tables []) => none
      | some (.tables (last :: earlier)) =>
        (alterPath made f path .header last).map fun last => .tables (last :: earlier)) entries

/-- Put a value under a key that is free. -/
def putValue (key : String) (j : Json) (entries : Entries) : Option Entries :=
  alterEntry key (fun node => if node.isNone then some (.value j) else none) entries

/-- Put a value under a dotted key, given the table that the key starts from. -/
def putDotted (path : List String) (key : String) (j : Json) (entries : Entries) :
    Option Entries :=
  if path.isEmpty then putValue key j entries
  else alterPath .dotted (fun origin below =>
    if origin = .dotted then putValue key j below else none) path .header entries

/-- Open a table by its header. A table that a path made becomes a table with a header. -/
def openTable (path : List String) (key : String) (root : Entries) : Option Entries :=
  alterPath .path (fun _ entries => alterEntry key (fun node =>
    match node with
    | none => some (.table .header [])
    | some (.table .path below) => some (.table .header below)
    | _ => none) entries) path .header root

/-- Add a table to a list of tables by its header. -/
def openItem (path : List String) (key : String) (root : Entries) : Option Entries :=
  alterPath .path (fun _ entries => alterEntry key (fun node =>
    match node with
    | none => some (.tables [[]])
    | some (.tables list) => some (.tables ([] :: list))
    | _ => none) entries) path .header root

/-- Put a value under a dotted key below the table that was opened last. -/
def putBelow (opened path : List String) (key : String) (j : Json) (root : Entries) :
    Option Entries :=
  alterPath .path (fun _ entries => putDotted path key j entries) opened .header root

mutual

/-- What stands under a key, as a document. -/
def Node.toJson : Node → Json
  | .value j => j
  | .table _ entries => .obj (entriesToJson entries)
  | .tables list => .arr (tablesToJson list).reverse

/-- The entries of a table as members. -/
def entriesToJson : List (String × Node) → List (String × Json)
  | [] => []
  | (key, node) :: rest => (key, node.toJson) :: entriesToJson rest

/-- Tables as documents. -/
def tablesToJson : List (List (String × Node)) → List Json
  | [] => []
  | entries :: rest => .obj (entriesToJson entries) :: tablesToJson rest

end

end SeedCleanup.Toml

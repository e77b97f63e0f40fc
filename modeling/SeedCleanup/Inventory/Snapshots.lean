import SeedCleanup.Config.Basic
import SeedCleanup.Config.Environment
import SeedCleanup.Data.SortedTable
import SeedCleanup.Digest.Sha1
import SeedCleanup.Inventory.Error
import SeedCleanup.Source.Manager
import SeedCleanup.Text.Paths

/-!
# Snapshots on disk

Each manager has one file in the directory of snapshots, named by the digest of its identity, which
holds the saved form of the manager's copy.
-/

namespace SeedCleanup

/-- What stands under a name in the directory of snapshots. -/
inductive SnapshotFile where
  | text (data : String)
  | directory
deriving DecidableEq, Inhabited

/-- The directory of snapshots, as far as it exists. -/
inductive SnapshotFolder where
  | missing
  /-- A plain file stands in its place. -/
  | blocked
  | present (files : SortedTable String SnapshotFile)
deriving DecidableEq, Inhabited

/-- The name of the file of a manager. -/
def snapshotName (identity : String) : String := Digest.Sha1.hexOfText identity

/-- The path of the file of a manager. -/
def snapshotPath (dir identity : String) : String := Text.joinPath dir (snapshotName identity)

/-- The variable that names another directory of snapshots. -/
def snapshotVariable : String := "SEEDWARDEN_CACHE_DIR"

/-- The directory of snapshots: that of the environment, or else that of the configuration. -/
def InventorySettings.snapshotDir (s : InventorySettings) (vars : Environment.Variables) :
    String :=
  (Environment.nonempty? vars snapshotVariable).getD s.cacheDir

namespace SnapshotFolder

/-- The names in the directory, ascending. -/
def names : SnapshotFolder → List String
  | present files => files.keys
  | _ => []

/-- What stands under a name. -/
def file? (folder : SnapshotFolder) (name : String) : Option SnapshotFile :=
  match folder with
  | present files => files.get? name
  | _ => none

/-- Read a file. -/
def read (folder : SnapshotFolder) (name : String) : Except FileError String :=
  match folder with
  | missing => .error .missing
  | blocked => .error .notDirectory
  | present files =>
    match files.get? name with
    | none => .error .missing
    | some (.text data) => .ok data
    | some .directory => .error .isDirectory

/-- Make the directory, unless it exists. -/
def make : SnapshotFolder → Except FileError (SortedTable String SnapshotFile)
  | missing => .ok .empty
  | blocked => .error .alreadyExists
  | present files => .ok files

/-- Write a file into the directory. -/
def write (files : SortedTable String SnapshotFile) (name data : String) :
    Except FileError (SortedTable String SnapshotFile) :=
  match files.get? name with
  | some .directory => .error .isDirectory
  | _ => .ok (files.insert name (.text data))

end SnapshotFolder

namespace Manager

variable {μ β δ : Type} (m : Manager μ β δ) (dir : String)

/-- Restore a manager's copy from its file. -/
def restore (folder : SnapshotFolder) (s : μ) : Except InventoryError Unit × μ :=
  match folder.read (snapshotName m.identity) with
  | .error e => (.error (.cacheFile (snapshotPath dir m.identity) e), s)
  | .ok data =>
    match m.load data s with
    | (.error e, s) => (.error (.source ("load " ++ m.identity ++ " snapshot") e), s)
    | (.ok (), s) => (.ok (), s)

/-- Write a manager's copy to its file. -/
def persist (folder : SnapshotFolder) (s : μ) :
    Except InventoryError Unit × μ × SnapshotFolder :=
  match folder.make with
  | .error e => (.error (.cacheFile dir e), s, folder)
  | .ok files =>
    match m.save s with
    | (.error e, s) => (.error (.source ("save " ++ m.identity ++ " snapshot") e), s, .present files)
    | (.ok data, s) =>
      match SnapshotFolder.write files (snapshotName m.identity) data with
      | .error e =>
        (.error (.cacheFile (snapshotPath dir m.identity) e), s, .present files)
      | .ok files => (.ok (), s, .present files)

end Manager

end SeedCleanup

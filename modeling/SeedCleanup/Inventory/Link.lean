import SeedCleanup.Media.Basic
import SeedCleanup.Text.Paths
import SeedCleanup.Torrent.Basic

/-!
# Linking files to torrents

A file of the library is linked to the first torrent that explains it: by the name of the torrent,
by that name with the file's extension, or by a file of the torrent with the same size and name.
-/

namespace SeedCleanup

open SeedCleanup.Text

/-- A file with the torrent that it was downloaded by, if any. -/
structure LinkedFile where
  file : MediaFile
  torrent : Option Torrent
deriving DecidableEq, Inhabited

/-- A title whose files are linked to torrents. -/
structure LinkedTitle where
  title : Title
  files : List LinkedFile
deriving DecidableEq, Inhabited

/-- Whether a file of a torrent is a file of the library: same size, and same path or base name. -/
def TorrentFile.provides (t : TorrentFile) (f : MediaFile) : Bool :=
  t.size == f.size && (t.path == f.path || baseName t.path == f.path)

/-- Whether a torrent explains a file. -/
def Torrent.provides (t : Torrent) (f : MediaFile) : Bool :=
  t.name == f.path || t.name ++ extension f.path == f.path || t.files.any (·.provides f)

/-- Link a file to the first torrent that explains it. -/
def MediaFile.link (torrents : List Torrent) (f : MediaFile) : LinkedFile :=
  ⟨f, torrents.find? (·.provides f)⟩

/-- Link the titles that have files. -/
def linkMedia (media : List MediaEntry) (torrents : List Torrent) : List LinkedTitle :=
  (media.filter fun e => !e.files.isEmpty).map fun e => ⟨e.title, e.files.map (·.link torrents)⟩

end SeedCleanup

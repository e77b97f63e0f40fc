import SeedCleanup.Json.Decoder
import SeedCleanup.Json.Printer
import SeedCleanup.Json.Reader
import SeedCleanup.Time.Timestamp
import SeedCleanup.Media.Basic

/-!
# Titles and files as documents

An entry is one object that holds the fields of its title beside the list of its files.
-/

namespace SeedCleanup

/-- Reads an instant from its written form. -/
def Instant.ofJson? (j : Json) : Option Instant := j.string?.bind Timestamp.parse

/-- An instant as a document. -/
def Instant.toJson (t : Instant) : Json := .str (Timestamp.text t)

namespace MediaKind

/-- Reads a kind. -/
def ofJson? (d : Json.Dialect) (j : Json) : Option MediaKind :=
  (d.variant? ["movie", "series"] j).bind ofWord?

/-- A kind as a document. -/
def toJson (k : MediaKind) : Json := .str k.word

end MediaKind

namespace MediaFile

/-- Reads a file. -/
def ofJson? (j : Json) : Option MediaFile := do
  let r ← Json.plain.record? ["id", "season", "original_file_path", "size"] j
  let id ← r.required "id" Json.int64?
  let season ← r.required "season" Json.int32?
  let path ← r.required "original_file_path" Json.string?
  let size ← r.required "size" Json.uint64?
  some ⟨id, season, path, size⟩

/-- A file as a document. -/
def toJson (f : MediaFile) : Json :=
  .obj [("id", .ofInt f.id.toInt), ("season", .ofInt f.season.toInt),
    ("original_file_path", .str f.path), ("size", .ofInt f.size.toNat)]

end MediaFile

namespace Title

/-- The liberties of a title: its fields are kept aside before they are read, and an empty object
then stands for nothing just as null does. -/
def dialect : Json.Dialect :=
  { Json.plain with
    isUnit := fun j => match j with
      | .null => true
      | .obj [] => true
      | _ => false }

/-- Reads a title. -/
def ofJson? (d : Json.Dialect) (j : Json) : Option Title := do
  let r ← d.record? ["id", "media_type", "title", "url", "added"] j
  let id ← r.required "id" Json.int64?
  let kind ← r.required "media_type" (MediaKind.ofJson? d)
  let name ← r.required "title" Json.string?
  let url ← r.required "url" Json.string?
  let added ← r.required "added" Instant.ofJson?
  some ⟨id, kind, name, url, added⟩

/-- The members of a title. -/
def members (t : Title) : List (String × Json) :=
  [("id", .ofInt t.id.toInt), ("media_type", t.kind.toJson), ("title", .str t.name),
    ("url", .str t.url), ("added", t.added.toJson)]

end Title

namespace MediaEntry

/-- Reads an entry that stands inside `outer` arrays. All members but the files are kept aside for
the title, so all of them must be readable and nest within the limit. -/
def ofJson? (outer : Nat) : Json → Option MediaEntry
  | .obj members => do
    let (forFiles, forTitle) := members.partition (·.1 == "files")
    if forTitle.any fun m => !m.2.isKeepable (outer + 1) then none
    let title ← Title.ofJson? Title.dialect (.obj forTitle)
    match forFiles with
    | [(_, files)] => (files.list? MediaFile.ofJson?).map (⟨title, ·⟩)
    | _ => none
  | _ => none

/-- Reads a list of entries. -/
def listOfJson? (j : Json) : Option (List MediaEntry) := j.list? (ofJson? 1)

/-- An entry as a document. -/
def toJson (e : MediaEntry) : Json :=
  .obj (e.title.members ++ [("files", .ofList MediaFile.toJson e.files)])

/-- The saved form of a list of entries. -/
def saved (entries : List MediaEntry) : String := (Json.ofList toJson entries).text

/-- Reads the saved form of a list of entries. -/
def ofSaved? (data : String) : Option (List MediaEntry) := (Json.parse data).bind listOfJson?

end MediaEntry

end SeedCleanup

import SeedCleanup.Inventory.Link
import SeedCleanup.Proofs.FirstMatch

/-!
# Links between files and torrents

The three rules by which a torrent explains a file (`Torrent.Links`), and what linking does: each
file gets the first torrent that explains it, and titles without files are left out.
-/

namespace SeedCleanup

open SeedCleanup.Text

/-- The rules by which a torrent explains a file. -/
inductive Torrent.Links (t : Torrent) (f : MediaFile) : Prop where
  | byName (h : t.name = f.path)
  | byNameAndExtension (h : t.name ++ extension f.path = f.path)
  | byFile (file : TorrentFile) (hmem : file ∈ t.files) (hsize : file.size = f.size)
      (hpath : file.path = f.path ∨ baseName file.path = f.path)

theorem TorrentFile.provides_iff {file : TorrentFile} {f : MediaFile} :
    file.provides f = true
      ↔ file.size = f.size ∧ (file.path = f.path ∨ baseName file.path = f.path) := by
  rw [TorrentFile.provides, Bool.and_eq_true, Bool.or_eq_true, beq_iff_eq, beq_iff_eq, beq_iff_eq]

theorem Torrent.provides_iff_links {t : Torrent} {f : MediaFile} :
    t.provides f = true ↔ t.Links f := by
  rw [Torrent.provides, Bool.or_eq_true, Bool.or_eq_true, beq_iff_eq, beq_iff_eq, List.any_eq_true]
  constructor
  · rintro ((h | h) | ⟨file, hmem, h⟩)
    · exact .byName h
    · exact .byNameAndExtension h
    · obtain ⟨hsize, hpath⟩ := TorrentFile.provides_iff.1 h
      exact .byFile file hmem hsize hpath
  · rintro (h | h | ⟨file, hmem, hsize, hpath⟩)
    · exact .inl (.inl h)
    · exact .inl (.inr h)
    · exact .inr ⟨file, hmem, TorrentFile.provides_iff.2 ⟨hsize, hpath⟩⟩

variable {torrents : List Torrent} {f : MediaFile}

/-- A file is linked to the first torrent that explains it. -/
theorem torrent_link_eq_some_iff {t : Torrent} :
    (f.link torrents).torrent = some t ↔ IsFirst (·.Links f) torrents t := by
  show torrents.find? (·.provides f) = some t ↔ _
  rw [find?_eq_some_iff_isFirst]
  simp only [Torrent.provides_iff_links]

/-- A file stays without a torrent exactly when none explains it. -/
theorem torrent_link_eq_none_iff :
    (f.link torrents).torrent = none ↔ ∀ t ∈ torrents, ¬t.Links f := by
  show torrents.find? (·.provides f) = none ↔ _
  rw [List.find?_eq_none]
  simp only [Torrent.provides_iff_links]

/-- Every linked title is a title with files, and its files are linked in their order. -/
theorem mem_linkMedia {media : List MediaEntry} {linked : LinkedTitle} :
    linked ∈ linkMedia media torrents
      ↔ ∃ e ∈ media, e.files ≠ [] ∧ linked = ⟨e.title, e.files.map (·.link torrents)⟩ := by
  rw [linkMedia, List.mem_map]
  constructor
  · rintro ⟨e, he, rfl⟩
    obtain ⟨hmem, hfiles⟩ := List.mem_filter.1 he
    exact ⟨e, hmem, by simpa using hfiles, rfl⟩
  · rintro ⟨e, hmem, hfiles, rfl⟩
    exact ⟨e, List.mem_filter.2 ⟨hmem, by simpa using hfiles⟩, rfl⟩

end SeedCleanup

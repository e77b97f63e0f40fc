import SeedCleanup.Proofs.LinkTheorems
import SeedCleanup.Proofs.PathTheorems
import SeedCleanup.Proofs.RetentionSafety

/-!
# The rules of linking

The rules by which a torrent explains a file, read off the texts alone (`Torrent.Explains`). Linking
goes by them (`Torrent.links_iff_explains`): a file keeps its torrent when others are added
behind, and a torrent that explains nothing leaves no trace.
-/

namespace SeedCleanup

open SeedCleanup.Text

/-- A torrent explains a file by its name, with or without the extension of the file, or by one of
its own files that has the same size and has the same path or ends in it. -/
inductive Torrent.Explains (t : Torrent) (f : MediaFile) : Prop where
  | byName (h : t.name = f.path)
  | byStem {ext : List Char} (hext : IsExtension f.path.toList ext)
      (h : f.path.toList = t.name.toList ++ ext)
  | byFile (file : TorrentFile) (hmem : file ∈ t.files) (hsize : file.size = f.size)
      (hpath : file.path = f.path ∨ f.path ≠ "" ∧ EndsIn file.path.toList f.path.toList)

theorem Torrent.links_iff_explains {t : Torrent} {f : MediaFile} : t.Links f ↔ t.Explains f := by
  have hpaths (file : TorrentFile) : file.path = f.path ∨ baseName file.path = f.path
      ↔ file.path = f.path ∨ f.path ≠ "" ∧ EndsIn file.path.toList f.path.toList := by
    by_cases heq : file.path = f.path
    · simp [heq]
    · rw [baseName_eq_iff_of_ne heq]
  constructor
  · rintro (h | h | ⟨file, hmem, hsize, hpath⟩)
    · exact .byName h
    · -- without an extension the second rule says what the first one says
      obtain hnone | hext := extension_cases f.path
      · rw [hnone, String.append_empty] at h
        exact .byName h
      · refine .byStem hext ?_
        rw [← String.toList_append, h]
    · exact .byFile file hmem hsize ((hpaths file).1 hpath)
  · rintro (h | ⟨hext, h⟩ | ⟨file, hmem, hsize, hpath⟩)
    · exact .byName h
    · refine .byNameAndExtension ?_
      rw [extension_of_isExtension hext, ← String.toList_inj, String.toList_append,
        String.toList_ofList, h]
    · exact .byFile file hmem hsize ((hpaths file).2 hpath)

theorem Torrent.provides_iff_explains {t : Torrent} {f : MediaFile} :
    t.provides f = true ↔ t.Explains f :=
  provides_iff_links.trans links_iff_explains

/-! ## What a list of titles is linked to -/

/-- A title is linked with its files in order, each to the first torrent that explains it. -/
structure MediaEntry.LinkedBy (torrents : List Torrent) (e : MediaEntry) (linked : LinkedTitle) :
    Prop where
  title_eq : linked.title = e.title
  files : List.Forall₂ (fun f g => g.file = f ∧
    ∀ t, g.torrent = some t ↔ IsFirst (·.Explains f) torrents t) e.files linked.files

/-- A title is linked to whatever it was linked to before, and maybe to more. -/
structure LinkedTitle.Extends (linked linked' : LinkedTitle) : Prop where
  title_eq : linked'.title = linked.title
  files : List.Forall₂ (fun g g' => g'.file = g.file ∧
    ∀ t, g.torrent = some t → g'.torrent = some t) linked.files linked'.files

theorem MediaFile.torrent_link_iff {f : MediaFile} {torrents : List Torrent} {t : Torrent} :
    (f.link torrents).torrent = some t ↔ IsFirst (·.Explains f) torrents t := by
  rw [torrent_link_eq_some_iff]
  simp only [Torrent.links_iff_explains]

/-- A torrent behind the others takes no file from them. -/
theorem MediaFile.torrent_link_append {f : MediaFile} {torrents more : List Torrent} {t : Torrent}
    (h : (f.link torrents).torrent = some t) : (f.link (torrents ++ more)).torrent = some t := by
  show (torrents ++ more).find? (·.provides f) = some t
  have hfound : torrents.find? (·.provides f) = some t := h
  rw [List.find?_append, hfound, Option.some_or]

/-- A torrent that does not explain a file may stand anywhere. -/
theorem MediaFile.link_insert {f : MediaFile} {t : Torrent} (h : ¬t.Explains f)
    (before after : List Torrent) : f.link (before ++ t :: after) = f.link (before ++ after) := by
  have hnot : ¬t.provides f = true := mt Torrent.provides_iff_explains.1 h
  have hskip : (t :: after).find? (·.provides f) = after.find? (·.provides f) :=
    List.find?_cons_of_neg hnot
  rw [MediaFile.link, MediaFile.link, List.find?_append, List.find?_append, hskip]

/-- Titles with files are linked one by one and in order, each file to the first torrent that
explains it. More torrents at the end change no link, a torrent that explains none of the files
changes nothing wherever it stands, and lists of titles are linked each for itself. -/
theorem linkMedia_by_rules (media : List MediaEntry) (torrents : List Torrent) :
    List.Forall₂ (MediaEntry.LinkedBy torrents) (media.filter fun e => !e.files.isEmpty)
      (linkMedia media torrents) ∧
    (∀ more, List.Forall₂ LinkedTitle.Extends (linkMedia media torrents)
      (linkMedia media (torrents ++ more))) ∧
    (∀ before t after, (∀ e ∈ media, ∀ f ∈ e.files, ¬Torrent.Explains t f) →
      linkMedia media (before ++ t :: after) = linkMedia media (before ++ after)) ∧
    ∀ media', linkMedia (media ++ media') torrents
      = linkMedia media torrents ++ linkMedia media' torrents := by
  refine ⟨?_, fun more => ?_, fun before t after h => ?_, fun media' => ?_⟩
  · rw [linkMedia, List.forall₂_map_right_iff, List.forall₂_same]
    refine fun e _ => ⟨rfl, ?_⟩
    rw [List.forall₂_map_right_iff, List.forall₂_same]
    exact fun f _ => ⟨rfl, fun t => MediaFile.torrent_link_iff⟩
  · rw [linkMedia, linkMedia, List.forall₂_map_left_iff, List.forall₂_map_right_iff,
      List.forall₂_same]
    refine fun e _ => ⟨rfl, ?_⟩
    rw [List.forall₂_map_left_iff, List.forall₂_map_right_iff, List.forall₂_same]
    exact fun f _ => ⟨rfl, fun t => MediaFile.torrent_link_append⟩
  · rw [linkMedia, linkMedia]
    refine List.map_congr_left fun e he => ?_
    have hfiles : e.files.map (·.link (before ++ t :: after))
        = e.files.map (·.link (before ++ after)) :=
      List.map_congr_left fun f hf => MediaFile.link_insert (h e (List.mem_filter.1 he).1 f hf) _ _
    rw [hfiles]
  · rw [linkMedia, List.filter_append, List.map_append]
    rfl

/-! ## A torrent that holds a path of slashes -/

namespace Sample

/-- A file whose path was never told. -/
def nameless : MediaFile := ⟨12, -1, "", 300⟩

/-- A torrent with a file whose path is a slash. -/
def root : Torrent := ⟨"qbit", "b", "root", .ofNat 1, ⟨0, 0⟩, ["tracker.org"], [⟨"/", 300⟩]⟩

end Sample

open Sample in
theorem root_explains_nothing :
    (∀ e ∈ [movie], ∀ f ∈ e.files, ¬root.Explains f) ∧
    linkMedia [movie] [root, torrent] = linkMedia [movie] [torrent] ∧
    linkMedia [movie] [torrent]
      = [⟨movie.title, [⟨seeded, some torrent⟩, ⟨unlinked, none⟩]⟩] := by
  have hnot : ∀ e ∈ [movie], ∀ f ∈ e.files, ¬root.Explains f := by
    have hprovides : ∀ e ∈ [movie], ∀ f ∈ e.files, ¬root.provides f = true := by decide
    exact fun e he f hf => mt Torrent.provides_iff_explains.2 (hprovides e he f hf)
  exact ⟨hnot, (linkMedia_by_rules [movie] []).2.2.1 [] root [torrent] hnot, rfl⟩

open Sample in
/-- What is left of a slash without the slashes at its end is empty, and so is its last element. A
file whose path is empty as well is not linked by that. -/
theorem slash_does_not_explain_nameless :
    (∃ file ∈ root.files, file.size = nameless.size ∧
      EndsIn file.path.toList nameless.path.toList) ∧
    linkMedia [⟨movie.title, [nameless]⟩] [root] = [⟨movie.title, [⟨nameless, none⟩]⟩] :=
  ⟨⟨_, List.mem_cons_self, rfl, endsIn_iff.2 rfl⟩, rfl⟩

end SeedCleanup

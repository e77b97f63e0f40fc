import SeedCleanup.Proofs.DocumentTheorems
import SeedCleanup.Proofs.SortedTableTheorems
import SeedCleanup.Torrent.Codec

/-!
# Saved lists

What was saved of titles or of torrents is read as the same titles and torrents, in the same order
(`MediaEntry.ofSaved?_saved`, `Torrent.ofSavedByClient?_savedByClient`), provided that the texts of
their times and of their ratios are read back. Each codec is shown to read what it writes from the
codecs of its parts.
-/

namespace SeedCleanup

/-! ## Integers, lists and records -/

namespace Json

variable {α : Type} {encode : α → Json} {decode : Json → Option α} {l : List α}

theorem faithful_ofInt {i : Int} (hlow : -2 ^ 63 ≤ i) (hhigh : i < 2 ^ 64) : (ofInt i).Faithful :=
  .num (Number.readsBack_ofInt hlow hhigh)

theorem intWithin?_ofInt {low high i : Int} (hlow : -2 ^ 63 ≤ i) (hhigh : i < 2 ^ 64)
    (hwithin : low ≤ i ∧ i ≤ high) : intWithin? low high (ofInt i) = some i := by
  have htest : (decide (low ≤ i) && decide (i ≤ high)) = true := by
    rw [decide_eq_true hwithin.1, decide_eq_true hwithin.2, Bool.and_self]
  rw [ofInt, intWithin?, Number.toInt?_ofInt hlow hhigh, Option.filter_some, if_pos htest]

theorem int64?_ofInt (n : Int64) : int64? (ofInt n.toInt) = some n := by
  have hlow : -2 ^ 63 ≤ n.toInt := n.le_toInt
  have hhigh : n.toInt < 2 ^ 63 := n.toInt_lt
  rw [int64?, intWithin?_ofInt hlow (by omega) ⟨n.minValue_le_toInt, n.toInt_le⟩, Option.map_some,
    Int64.ofInt_toInt]

theorem int32?_ofInt (n : Int32) : int32? (ofInt n.toInt) = some n := by
  have hlow : -2 ^ 31 ≤ n.toInt := n.le_toInt
  have hhigh : n.toInt < 2 ^ 31 := n.toInt_lt
  rw [int32?, intWithin?_ofInt (by omega) (by omega) ⟨n.minValue_le_toInt, n.toInt_le⟩,
    Option.map_some, Int32.ofInt_toInt]

theorem uint64?_ofInt (n : UInt64) : uint64? (ofInt n.toNat) = some n := by
  have hlt : n.toNat < 2 ^ 64 := n.toNat_lt
  have hwithin : (0 : Int) ≤ n.toNat ∧ (n.toNat : Int) ≤ UInt64.size - 1 := by
    show _ ∧ (n.toNat : Int) ≤ 2 ^ 64 - 1
    omega
  rw [uint64?, intWithin?_ofInt (by omega) (by omega) hwithin, Option.map_some, Int.toNat_natCast,
    UInt64.ofNat_toNat]

theorem faithful_int64 (n : Int64) : (ofInt n.toInt).Faithful := by
  have hlow : -2 ^ 63 ≤ n.toInt := n.le_toInt
  have hhigh : n.toInt < 2 ^ 63 := n.toInt_lt
  exact faithful_ofInt hlow (by omega)

theorem faithful_int32 (n : Int32) : (ofInt n.toInt).Faithful := by
  have hlow : -2 ^ 31 ≤ n.toInt := n.le_toInt
  have hhigh : n.toInt < 2 ^ 31 := n.toInt_lt
  exact faithful_ofInt (by omega) (by omega)

theorem faithful_uint64 (n : UInt64) : (ofInt n.toNat).Faithful := by
  have hlt : n.toNat < 2 ^ 64 := n.toNat_lt
  exact faithful_ofInt (by omega) (by omega)

/-- Reading one by one what was written one by one. -/
theorem mapM_map {γ : Type} {write : α → γ} {read : γ → Option α}
    (h : ∀ a ∈ l, read (write a) = some a) : (l.map write).mapM read = some l := by
  induction l with
  | nil => rfl
  | cons a rest ih =>
    obtain ⟨ha, hrest⟩ := List.forall_mem_cons.1 h
    rw [List.map_cons, List.mapM_cons, ha, ih hrest]
    rfl

theorem list?_ofList (h : ∀ a ∈ l, decode (encode a) = some a) :
    list? decode (ofList encode l) = some l := mapM_map h

theorem faithful_ofList (h : ∀ a ∈ l, (encode a).Faithful) : (ofList encode l).Faithful := by
  refine .arr fun item hitem => ?_
  obtain ⟨a, ha, rfl⟩ := List.mem_map.1 hitem
  exact h a ha

/-- An object whose members are the fields of a record, each given once. -/
theorem record?_obj {d : Dialect} {names : List String} {members : List (String × Json)}
    (hnames : members.map (·.1) = names) (hnodup : names.Nodup) :
    d.record? names (.obj members) = some members := by
  have hknown : members.filter (fun m => names.contains m.1) = members := by
    rw [List.filter_eq_self]
    intro m hm
    rw [List.contains_iff_mem, ← hnames]
    exact List.mem_map_of_mem hm
  simp only [Dialect.record?, hknown, hnames, hnodup, if_true]

namespace Record

theorem required_self (name : String) (j : Json) (r : Record) :
    Record.required ((name, j) :: r) name decode = decode j := by
  rw [Record.required, List.lookup_cons, beq_self_eq_true]
  rfl

theorem required_other {name other : String} (h : other ≠ name) (j : Json) (r : Record) :
    Record.required ((name, j) :: r) other decode = Record.required r other decode := by
  rw [Record.required, List.lookup_cons, beq_false_of_ne h]
  rfl

end Record

end Json

/-! ## Times -/

namespace Instant

/-- The text of an instant is read as that instant. -/
def ReadsBack (t : Instant) : Prop := Timestamp.parse (Timestamp.text t) = some t

instance (t : Instant) : Decidable t.ReadsBack := inferInstanceAs (Decidable (_ = some t))

theorem ofJson?_toJson {t : Instant} (h : t.ReadsBack) : ofJson? t.toJson = some t := by
  rw [ofJson?, toJson, Json.string?, Option.bind_some]
  exact h

end Instant

/-! ## Titles and their files -/

open Json.Record (required_self required_other)

namespace MediaFile

theorem ofJson?_toJson (f : MediaFile) : ofJson? f.toJson = some f := by
  have hrecord : Json.plain.record? ["id", "season", "original_file_path", "size"] f.toJson
      = some [("id", .ofInt f.id.toInt), ("season", .ofInt f.season.toInt),
          ("original_file_path", .str f.path), ("size", .ofInt f.size.toNat)] :=
    Json.record?_obj rfl (by decide)
  rw [ofJson?, hrecord]
  simp only [Option.bind_eq_bind, Option.bind_some, required_self, required_other, ne_eq,
    String.reduceEq, not_false_eq_true, Json.int64?_ofInt, Json.int32?_ofInt, Json.string?,
    Json.uint64?_ofInt]

theorem faithful_toJson (f : MediaFile) : f.toJson.Faithful := by
  refine .obj ?_
  simp only [List.forall_mem_cons]
  exact ⟨Json.faithful_int64 f.id, Json.faithful_int32 f.season, .str _,
    Json.faithful_uint64 f.size, fun m hm => absurd hm List.not_mem_nil⟩

end MediaFile

namespace Title

variable {t : Title}

theorem kind_ofJson?_toJson (kind : MediaKind) :
    MediaKind.ofJson? dialect kind.toJson = some kind := by
  cases kind <;> rfl

theorem ofJson?_members (h : t.added.ReadsBack) : ofJson? dialect (.obj t.members) = some t := by
  have hrecord : dialect.record? ["id", "media_type", "title", "url", "added"] (.obj t.members)
      = some t.members := Json.record?_obj rfl (by decide)
  rw [ofJson?, hrecord, members]
  simp only [Option.bind_eq_bind, Option.bind_some, required_self, required_other, ne_eq,
    String.reduceEq, not_false_eq_true, Json.int64?_ofInt, kind_ofJson?_toJson, Json.string?,
    Instant.ofJson?_toJson h]

/-- The fields of a title are texts and a number, none of which nests. -/
theorem members_faithful (t : Title) :
    ∀ m ∈ t.members, m.2.Faithful ∧ m.1 ≠ "files" ∧ m.2.isKeepable 2 = true := by
  simp only [members, List.forall_mem_cons]
  exact ⟨⟨Json.faithful_int64 t.id, by decide, rfl⟩, ⟨.str _, by decide, rfl⟩,
    ⟨.str _, by decide, rfl⟩, ⟨.str _, by decide, rfl⟩, ⟨.str _, by decide, rfl⟩,
    fun m hm => absurd hm List.not_mem_nil⟩

end Title

namespace MediaEntry

/-- The files of an entry are told apart from its title by their name. -/
theorem partition_members (t : Title) (files : Json) :
    (t.members ++ [("files", files)]).partition (fun m => m.1 == "files")
      = ([("files", files)], t.members) := by
  have hfiles : t.members.filter (fun m => m.1 == "files") = [] := by
    rw [List.filter_eq_nil_iff]
    intro m hm heq
    exact (t.members_faithful m hm).2.1 (eq_of_beq heq)
  have htitle : t.members.filter (not ∘ fun m => m.1 == "files") = t.members := by
    rw [List.filter_eq_self]
    intro m hm
    show (!(m.1 == "files")) = true
    rw [beq_false_of_ne (t.members_faithful m hm).2.1]
    rfl
  rw [List.partition_eq_filter_filter, List.filter_append, List.filter_append, hfiles, htitle]
  exact Prod.ext rfl (List.append_nil _)

theorem ofJson?_toJson {e : MediaEntry} (h : e.title.added.ReadsBack) :
    ofJson? 1 e.toJson = some e := by
  have hfiles : Json.list? MediaFile.ofJson? (.ofList MediaFile.toJson e.files) = some e.files :=
    Json.list?_ofList fun f _ => f.ofJson?_toJson
  have hkept : e.title.members.any (fun m => !m.2.isKeepable 2) = false := by
    rw [List.any_eq_false]
    intro m hm
    rw [(e.title.members_faithful m hm).2.2]
    exact Bool.false_ne_true
  simp only [toJson, ofJson?, partition_members, hkept, Bool.false_eq_true, if_false,
    Option.bind_eq_bind, Option.bind_some, Title.ofJson?_members h, hfiles, Option.map_some]

theorem faithful_toJson (e : MediaEntry) : e.toJson.Faithful := by
  refine .obj fun m hm => ?_
  rcases List.mem_append.1 hm with hm | hm
  · exact (e.title.members_faithful m hm).1
  · rw [List.mem_singleton.1 hm]
    exact Json.faithful_ofList fun f _ => f.faithful_toJson

/-- A saved list of entries is read as that list. -/
theorem ofSaved?_saved {entries : List MediaEntry}
    (h : ∀ e ∈ entries, e.title.added.ReadsBack) : ofSaved? (saved entries) = some entries := by
  have hparse : Json.parse (saved entries) = some (.ofList toJson entries) :=
    Json.parse_text (Json.faithful_ofList fun e _ => e.faithful_toJson)
  rw [ofSaved?, hparse, Option.bind_some, listOfJson?]
  exact Json.list?_ofList fun e he => ofJson?_toJson (h e he)

end MediaEntry

/-! ## Torrents and their files -/

namespace TorrentFile

theorem ofJson?_toJson (f : TorrentFile) : ofJson? f.toJson = some f := by
  have hrecord : Json.plain.record? ["path", "size"] f.toJson
      = some [("path", .str f.path), ("size", .ofInt f.size.toNat)] :=
    Json.record?_obj rfl (by decide)
  have hpath : Json.Record.required [("path", .str f.path), ("size", .ofInt f.size.toNat)] "path"
      Json.string? = some f.path := by
    rw [required_self, Json.string?]
  have hsize : Json.Record.required [("path", .str f.path), ("size", .ofInt f.size.toNat)] "size"
      Json.uint64? = some f.size := by
    rw [required_other (by decide), required_self, Json.uint64?_ofInt]
  rw [ofJson?, hrecord, Option.bind_eq_bind, Option.bind_some, hpath, Option.bind_eq_bind,
    Option.bind_some, hsize]
  rfl

theorem faithful_toJson (f : TorrentFile) : f.toJson.Faithful := by
  refine .obj ?_
  simp only [List.forall_mem_cons]
  exact ⟨.str _, Json.faithful_uint64 f.size, fun m hm => absurd hm List.not_mem_nil⟩

end TorrentFile

namespace Torrent

/-- The ratio of a torrent is a real number, whose numeral is read back, and so is its time. -/
structure ReadsBack (t : Torrent) : Prop where
  finite : t.ratio.isFinite = true
  ratio : (Number.real t.ratio).ReadsBack
  added : t.added.ReadsBack

variable {t : Torrent}

theorem ReadsBack.toJson_ratio (h : t.ReadsBack) :
    Json.ofBinary64 t.ratio = .num (.real t.ratio) := if_pos h.finite

theorem ofJson?_toJson (h : t.ReadsBack) : ofJson? t.toJson = some t := by
  have hrecord : Json.plain.record?
      ["client", "id", "name", "ratio", "added", "trackers", "files"] t.toJson
        = some [("client", .str t.client), ("id", .str t.id), ("name", .str t.name),
            ("ratio", .num (.real t.ratio)), ("added", t.added.toJson),
            ("trackers", .ofList .str t.trackers),
            ("files", .ofList TorrentFile.toJson t.files)] := by
    rw [← h.toJson_ratio]
    exact Json.record?_obj rfl (by decide)
  have htrackers : Json.list? Json.string? (.ofList .str t.trackers) = some t.trackers :=
    Json.list?_ofList fun _ _ => rfl
  have hfiles : Json.list? TorrentFile.ofJson? (.ofList TorrentFile.toJson t.files)
      = some t.files := Json.list?_ofList fun f _ => f.ofJson?_toJson
  rw [ofJson?, hrecord]
  simp only [Option.bind_eq_bind, Option.bind_some, required_self, required_other, ne_eq,
    String.reduceEq, not_false_eq_true, Json.string?, Json.binary64?, Number.toBinary64,
    Instant.ofJson?_toJson h.added, htrackers, hfiles]

theorem faithful_toJson (h : t.ReadsBack) : t.toJson.Faithful := by
  have hratio : (Json.ofBinary64 t.ratio).Faithful := h.toJson_ratio ▸ .num h.ratio
  have htrackers : (Json.ofList .str t.trackers).Faithful := Json.faithful_ofList fun s _ => .str s
  have hfiles : (Json.ofList TorrentFile.toJson t.files).Faithful :=
    Json.faithful_ofList fun f _ => f.faithful_toJson
  refine .obj ?_
  simp only [List.forall_mem_cons]
  exact ⟨.str _, .str _, .str _, hratio, .str _, htrackers, hfiles,
    fun m hm => absurd hm List.not_mem_nil⟩

/-- The saved lists of all clients are read as those lists, each under its client. -/
theorem ofSavedByClient?_savedByClient {lists : SortedTable String (List Torrent)}
    (h : ∀ client l, (client, l) ∈ lists.entries → ∀ t ∈ l, t.ReadsBack) :
    ofSavedByClient? (savedByClient lists) = some lists := by
  have hfaithful : (Json.obj (lists.entries.map fun e => (e.1, .ofList toJson e.2))).Faithful := by
    refine .obj fun m hm => ?_
    obtain ⟨⟨client, l⟩, he, rfl⟩ := List.mem_map.1 hm
    exact Json.faithful_ofList fun t ht => faithful_toJson (h client l he t ht)
  have hparse : Json.parse (savedByClient lists)
      = some (.obj (lists.entries.map fun e => (e.1, .ofList toJson e.2))) :=
    Json.parse_text hfaithful
  have hmembers : (lists.entries.map fun e => (e.1, Json.ofList toJson e.2)).mapM clientOfMember?
      = some lists.entries := by
    have hmember : ∀ e ∈ lists.entries,
        clientOfMember? (e.1, Json.ofList toJson e.2) = some e := by
      intro e he
      rw [clientOfMember?, Json.list?_ofList fun t ht => ofJson?_toJson (h e.1 e.2 he t ht)]
      rfl
    exact Json.mapM_map hmember
  rw [ofSavedByClient?, hparse]
  dsimp only
  rw [hmembers, Option.map_some, SortedTable.ofList_entries]

end Torrent

end SeedCleanup

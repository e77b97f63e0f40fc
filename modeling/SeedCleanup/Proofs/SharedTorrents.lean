import SeedCleanup.Proofs.SeasonGuard

/-!
# What rows say about the torrents of their files

A title and a season tell the ratio and the age of their first file if all later files are like it,
and neither of them otherwise (`Row.TellsOf`). Both are computed by taking in one file after the
other (`TorrentInfo.tells_foldl`), and the order of the files plays no part, up to ratios that are
equal as numbers (`torrents_of_rows`).
-/

namespace SeedCleanup

/-! ## What a list has in common -/

/-- What a list has in common: the value of its first element if all later ones are like it, and
nothing otherwise. -/
inductive IsCommon {α β : Type} (Like : α → α → Prop) (value : α → Option β) :
    List α → Option β → Prop
  | nil : IsCommon Like value [] none
  | shared {a : α} {rest : List α} (h : ∀ b ∈ rest, Like a b) :
    IsCommon Like value (a :: rest) (value a)
  | differing {a b : α} {rest : List α} (hmem : b ∈ rest) (h : ¬Like a b) :
    IsCommon Like value (a :: rest) none

namespace IsCommon

variable {α β : Type} {Like : α → α → Prop} {value : α → Option β} {l l' : List α}
  {x x' : Option β}

/-- If likeness is an equivalence of the elements of a list, then what the list has in common does
not depend on its order, but for the element that it is read off. -/
theorem of_perm (h : IsCommon Like value l x) (h' : IsCommon Like value l' x') (hperm : l.Perm l')
    (hrefl : ∀ a ∈ l, Like a a) (hsymm : ∀ a b, Like a b → Like b a)
    (htrans : ∀ a b c, Like a b → Like b c → Like a c) :
    x = none ∧ x' = none ∨ ∃ a b, Like a b ∧ x = value a ∧ x' = value b := by
  -- the elements that are all like the first of one list are like each other
  have hall {a : α} {rest : List α} (hl : l = a :: rest) (hrest : ∀ b ∈ rest, Like a b) :
      ∀ b ∈ l, Like a b := by
    subst hl
    exact List.forall_mem_cons.2 ⟨hrefl a List.mem_cons_self, hrest⟩
  cases h with
  | nil =>
    obtain rfl := hperm.nil_eq
    cases h'
    exact .inl ⟨rfl, rfl⟩
  | @shared a rest hrest =>
    have ha := hall rfl hrest
    cases h' with
    | nil => exact nomatch hperm.eq_nil
    | @shared b rest' _ =>
      exact .inr ⟨a, b, ha b (hperm.mem_iff.2 List.mem_cons_self), rfl, rfl⟩
    | @differing b c rest' hc hne =>
      have hb := ha b (hperm.mem_iff.2 List.mem_cons_self)
      have hac := ha c (hperm.mem_iff.2 (List.mem_cons_of_mem _ hc))
      exact absurd (htrans b a c (hsymm a b hb) hac) hne
  | @differing a b rest hb hne =>
    cases h' with
    | nil => exact .inl ⟨rfl, rfl⟩
    | @shared c rest' hrest' =>
      have hc : ∀ d ∈ a :: rest, Like c d := by
        intro d hd
        rcases List.mem_cons.1 (hperm.mem_iff.1 hd) with rfl | hd'
        · exact hrefl d hd
        · exact hrest' d hd'
      have ha := hc a List.mem_cons_self
      have hcb := hc b (List.mem_cons_of_mem _ hb)
      exact absurd (htrans a c b (hsymm c a ha) hcb) hne
    | differing => exact .inl ⟨rfl, rfl⟩

/-- To compare the next element with what was common so far is enough: once something differed,
nothing is in common any more. -/
theorem append_singleton [DecidableEq β] (h : IsCommon (fun a b => value a = value b) value l x)
    (hl : l ≠ []) (b : α) :
    IsCommon (fun a b => value a = value b) value (l ++ [b])
      (if x = value b then x else none) := by
  cases h with
  | nil => exact absurd rfl hl
  | @shared a rest hrest =>
    split
    · rename_i hb
      refine .shared fun c hc => ?_
      rcases List.mem_append.1 hc with hc | hc
      · exact hrest c hc
      · rw [List.mem_singleton.1 hc]
        exact hb
    · rename_i hb
      exact .differing (List.mem_append_right rest List.mem_cons_self) hb
  | differing hc hne =>
    rw [ite_self]
    exact .differing (List.mem_append_left _ hc) hne

end IsCommon

/-! ## Files that are like each other -/

namespace LinkedFile

/-- The ratio of the torrent of a file. -/
def ratio (f : LinkedFile) : Option Binary64 := f.torrent.map (·.ratio)

/-- How long the torrent of a file has been held. -/
def age (now : Instant) (f : LinkedFile) : Option Span := f.torrent.map fun t => now.since t.added

/-- When the torrent of a file was added. -/
def added (f : LinkedFile) : Option Instant := f.torrent.map (·.added)

/-- Whether two files agree in having a torrent, in its ratio as a number and in its age. -/
def SeedsLike (now : Instant) (f g : LinkedFile) : Prop :=
  f.torrent.isSome = g.torrent.isSome ∧ TorrentInfo.sameRatio f.ratio g.ratio = true ∧
    f.age now = g.age now

/-- The ratio of a file is a number, if it has a torrent. -/
def HasNumber (f : LinkedFile) : Prop := ∀ t, f.torrent = some t → t.ratio.isNaN = false

end LinkedFile

namespace TorrentInfo

variable {a b c : Option Binary64}

theorem sameRatio_symm (h : sameRatio a b = true) : sameRatio b a = true := by
  match a, b with
  | none, none => rfl
  | some x, some y =>
    obtain ⟨hx, hy, hplace⟩ := Binary64.eqv_iff.1 h
    exact Binary64.eqv_iff.2 ⟨hy, hx, hplace.symm⟩

theorem sameRatio_trans (h : sameRatio a b = true) (h' : sameRatio b c = true) :
    sameRatio a c = true := by
  match a, b, c with
  | none, none, none => rfl
  | some x, some y, some z =>
    obtain ⟨hx, -, hplace⟩ := Binary64.eqv_iff.1 h
    obtain ⟨-, hz, hplace'⟩ := Binary64.eqv_iff.1 h'
    exact Binary64.eqv_iff.2 ⟨hx, hz, hplace.trans hplace'⟩

end TorrentInfo

namespace LinkedFile

variable {now : Instant} {f g h : LinkedFile}

theorem SeedsLike.symm (hfg : SeedsLike now f g) : SeedsLike now g f :=
  ⟨hfg.1.symm, TorrentInfo.sameRatio_symm hfg.2.1, hfg.2.2.symm⟩

theorem SeedsLike.trans (hfg : SeedsLike now f g) (hgh : SeedsLike now g h) : SeedsLike now f h :=
  ⟨hfg.1.trans hgh.1, TorrentInfo.sameRatio_trans hfg.2.1 hgh.2.1, hfg.2.2.trans hgh.2.2⟩

theorem HasNumber.sameRatio_self (hf : f.HasNumber) :
    TorrentInfo.sameRatio f.ratio f.ratio = true := by
  unfold ratio
  cases ht : f.torrent with
  | none => rfl
  | some t => exact Binary64.eqv_iff.2 ⟨hf t ht, hf t ht, rfl⟩

theorem HasNumber.seedsLike_self (hf : f.HasNumber) : SeedsLike now f f :=
  ⟨rfl, hf.sameRatio_self, rfl⟩

end LinkedFile

/-! ## Taking in one file after the other -/

theorem LinkStatus.ofFiles_perm {files files' : List LinkedFile} (h : files.Perm files') :
    ofFiles files = ofFiles files' := by
  simp only [ofFiles, h.all_eq]

namespace TorrentInfo

theorem foldl_combine_of_all {i : TorrentInfo} {rest : List TorrentInfo}
    (h : ∀ j ∈ rest, i.agrees j = true) : rest.foldl combine i = i := by
  induction rest with
  | nil => rfl
  | cons j rest ih =>
    obtain ⟨hj, hrest⟩ := List.forall_mem_cons.1 h
    rw [List.foldl_cons, combine, if_pos hj, ih hrest]

/-- What differs stays cleared, also if a later file agrees with what was cleared. -/
theorem foldl_combine_of_cleared {i : TorrentInfo} {rest : List TorrentInfo}
    (hratio : i.ratio = none) (hage : i.age = none) :
    (rest.foldl combine i).ratio = none ∧ (rest.foldl combine i).age = none := by
  induction rest generalizing i with
  | nil => exact ⟨hratio, hage⟩
  | cons j rest ih =>
    rw [List.foldl_cons, combine]
    split
    · exact ih hratio hage
    · exact ih rfl rfl

theorem foldl_combine_of_not_agrees {i j : TorrentInfo} {rest : List TorrentInfo} (hmem : j ∈ rest)
    (h : i.agrees j = false) :
    (rest.foldl combine i).ratio = none ∧ (rest.foldl combine i).age = none := by
  induction rest with
  | nil => cases hmem
  | cons k rest ih =>
    rw [List.foldl_cons, combine]
    split
    · rename_i hk
      refine ih ((List.mem_cons.1 hmem).resolve_left ?_)
      rintro rfl
      rw [h] at hk
      cases hk
    · exact foldl_combine_of_cleared rfl rfl

/-- What is said about the torrents of files together. -/
structure TellsOf (now : Instant) (files : List LinkedFile) (i : TorrentInfo) : Prop where
  status : i.status = if files.isEmpty then .missing else .ofFiles files
  ratio : IsCommon (LinkedFile.SeedsLike now) LinkedFile.ratio files i.ratio
  age : IsCommon (LinkedFile.SeedsLike now) (LinkedFile.age now) files i.age

/-- What is said about files does not depend on their order. -/
theorem TellsOf.agrees_of_perm {now : Instant} {files files' : List LinkedFile} {i i' : TorrentInfo}
    (h : TellsOf now files i) (h' : TellsOf now files' i') (hperm : files.Perm files')
    (hnumbers : ∀ f ∈ files, f.HasNumber) : i.agrees i' = true := by
  have hrefl : ∀ f ∈ files, LinkedFile.SeedsLike now f f :=
    fun f hf => (hnumbers f hf).seedsLike_self
  have hstatus : i.status = i'.status := by
    rw [h.status, h'.status, LinkStatus.ofFiles_perm hperm, hperm.isEmpty_eq]
  have hratio : sameRatio i.ratio i'.ratio = true := by
    obtain ⟨hi, hi'⟩ | ⟨f, g, hlike, hi, hi'⟩ := h.ratio.of_perm h'.ratio hperm hrefl
      (fun _ _ => .symm) fun _ _ _ => .trans
    · rw [hi, hi']
      rfl
    · rw [hi, hi']
      exact hlike.2.1
  have hage : i.age = i'.age := by
    obtain ⟨hi, hi'⟩ | ⟨f, g, hlike, hi, hi'⟩ := h.age.of_perm h'.age hperm hrefl
      (fun _ _ => .symm) fun _ _ _ => .trans
    · rw [hi, hi']
    · rw [hi, hi']
      exact hlike.2.2
  rw [agrees, hstatus, hratio, hage, beq_self_eq_true, beq_self_eq_true]
  rfl

end TorrentInfo

namespace Row

variable {item : Item} {now : Instant}

theorem age_torrent_ofFile (f : LinkedFile) :
    (ofFile item now f).torrent.age = f.age now := by
  show (torrentOfFile _ f now).age = _
  unfold torrentOfFile LinkedFile.age
  cases f.torrent <;> rfl

/-- The rows of two files agree if the files are like each other, whatever their trackers are. -/
theorem agrees_torrent_ofFile_iff (f g : LinkedFile) :
    (ofFile item now f).torrent.agrees (ofFile item now g).torrent = true ↔ f.SeedsLike now g := by
  have hstatus : ((ofFile item now f).torrent.status == (ofFile item now g).torrent.status) = true
      ↔ f.torrent.isSome = g.torrent.isSome := by
    rw [status_torrent_ofFile, status_torrent_ofFile]
    cases hf : f.torrent <;> cases hg : g.torrent <;> simp [LinkStatus.ofFiles, hf, hg]
  rw [TorrentInfo.agrees, Bool.and_eq_true, Bool.and_eq_true, hstatus, ratio_torrent_ofFile,
    ratio_torrent_ofFile, age_torrent_ofFile, age_torrent_ofFile, beq_iff_eq, and_assoc]
  rfl

section

variable (f : LinkedFile) (rest : List LinkedFile) (tracker : Option Tracker)

theorem status_foldl :
    ((rest.map fun g => (ofFile item now g).torrent).foldl TorrentInfo.combine
      { (ofFile item now f).torrent with tracker := tracker }).status
        = LinkStatus.ofFiles (f :: rest) := by
  induction rest using List.reverseRecOn with
  | nil => exact status_torrent_ofFile f
  | append_singleton rest g ih =>
    rw [List.map_append, List.foldl_append, List.map_singleton, List.foldl_cons, List.foldl_nil,
      TorrentInfo.status_combine, ih, status_torrent_ofFile]
    exact LinkStatus.combine_ofFiles (List.cons_ne_nil f rest) g

/-- Taking in the files after the first one by one gives what the files tell together. -/
theorem tellsOf_foldl :
    TorrentInfo.TellsOf now (f :: rest)
      ((rest.map fun g => (ofFile item now g).torrent).foldl TorrentInfo.combine
        { (ofFile item now f).torrent with tracker := tracker }) := by
  -- the tracker plays no part in the comparison
  have hagrees (g : LinkedFile) :
      ({ (ofFile item now f).torrent with tracker := tracker } : TorrentInfo).agrees
        (ofFile item now g).torrent = true ↔ f.SeedsLike now g := agrees_torrent_ofFile_iff f g
  by_cases hall : ∀ g ∈ rest, f.SeedsLike now g
  · have hfold := TorrentInfo.foldl_combine_of_all
      (List.forall_mem_map.2 fun g hg => (hagrees g).2 (hall g hg))
    refine ⟨status_foldl f rest tracker, ?_, ?_⟩
    · rw [hfold]
      exact ratio_torrent_ofFile f ▸ .shared hall
    · rw [hfold]
      exact age_torrent_ofFile f ▸ .shared hall
  · push Not at hall
    obtain ⟨g, hg, hne⟩ := hall
    have hmem := List.mem_map_of_mem (f := fun g => (ofFile item now g).torrent) hg
    have hdiffers := Bool.eq_false_iff.2 (mt (hagrees g).1 hne)
    obtain ⟨hratio, hage⟩ := TorrentInfo.foldl_combine_of_not_agrees hmem hdiffers
    refine ⟨status_foldl f rest tracker, ?_, ?_⟩
    · rw [hratio]
      exact .differing hg hne
    · rw [hage]
      exact .differing hg hne

end

/-! ## Titles and seasons -/

/-- What a title says about torrents is what its files tell together. -/
theorem tellsOf_ofItem (item : Item) (now : Instant) :
    TorrentInfo.TellsOf now item.linked.files (ofItem item now).torrent := by
  show TorrentInfo.TellsOf now _ { TorrentInfo.fold _ with tracker := _ }
  cases item.linked.files with
  | nil => exact ⟨rfl, .nil, .nil⟩
  | cons f rest =>
    have h := @tellsOf_foldl item now f rest (ofFile item now f).torrent.tracker
    exact ⟨h.status, h.ratio, h.age⟩

/-- How the row of a season sums up its files. -/
structure SumsUpSeason (item : Item) (now : Instant) (n : Int32) (row : Row) : Prop where
  torrent : TorrentInfo.TellsOf now (item.seasonFiles n) row.torrent
  added : IsCommon (fun f g => f.added = g.added) LinkedFile.added (item.seasonFiles n) row.added

namespace Shows

variable {files : List LinkedFile} {row : Row} {n : Int32}

/-- A season tells when its files were added if all were added at the same time. -/
theorem isCommon_added (h : Shows item now (.season n) files row) :
    IsCommon (fun f g => f.added = g.added) LinkedFile.added files row.added := by
  generalize hs : FileSelector.season n = s at h
  induction h with
  | file f => cases hs
  | season f => exact .shared fun g hg => absurd hg List.not_mem_nil
  | addFile g h ih => exact (ih hs).append_singleton h.files_ne_nil g

/-- A season row sums up the files of its season, guarded or not. -/
theorem sumsUpSeason
    (h : Shows item now (.season n) (item.membersOf item.linked.files (.season n)) row) :
    SumsUpSeason item now n row.guardSeason := by
  obtain ⟨f, hf⟩ := List.exists_mem_of_ne_nil _ h.files_ne_nil
  obtain ⟨hkind, hn, -⟩ := Item.groupOf_eq_season_iff.1 (Item.mem_membersOf.1 hf).2
  rw [Item.membersOf_season hkind hn] at h
  obtain ⟨g, rest, tracker, hfiles, htorrent⟩ := h.torrent_eq
  obtain ⟨children, hguard, -⟩ := row.guardSeason_eq
  rw [hguard]
  refine ⟨?_, h.isCommon_added⟩
  show TorrentInfo.TellsOf now _ row.torrent
  rw [htorrent, hfiles]
  exact tellsOf_foldl g rest tracker

end Shows

/-- A row below a title that has the id of a season sums up its files. -/
theorem sumsUpSeason_of_mem {n : Int32} {row : Row} (hrow : row ∈ (ofItem item now).children)
    (hid : row.id = (item.idOf (.season n)).text) : SumsUpSeason item now n row := by
  rw [children_ofItem] at hrow
  obtain ⟨below, hbelow, rfl⟩ := List.mem_map.1 hrow
  obtain ⟨children, hguard, -⟩ := below.guardSeason_eq
  rw [hguard] at hid
  exact (((arranged_foldl _).isBelow below hbelow).shows hid).sumsUpSeason

/-- Every season that a file of a series belongs to has a row below the title. -/
theorem exists_season_row (hkind : item.linked.title.kind = .series) {f : LinkedFile}
    (hf : f ∈ item.linked.files) (hn : 0 < f.file.season) :
    ∃ row ∈ (ofItem item now).children, row.id = (item.idOf (.season f.file.season)).text := by
  have hgroup := Item.groupOf_eq_season_iff.2 ⟨hkind, hn, rfl⟩
  obtain ⟨row, hrow, hid⟩ := List.mem_map.1 ((arranged_foldl _).mem_ids f hf _ hgroup)
  obtain ⟨children, hguard, -⟩ := row.guardSeason_eq
  refine ⟨row.guardSeason, ?_, ?_⟩
  · rw [children_ofItem]
    exact List.mem_map_of_mem hrow
  · rw [hguard]
    exact hid

end Row

/-- The row of a title and each row of a season tell the ratio and the age of their first file if
all later ones are like it, and neither of them otherwise; a season tells when its files were added
if that is the same for all. Files in another order are told of alike, up to ratios that are equal
as numbers. -/
theorem torrents_of_rows (item : Item) (now : Instant) :
    TorrentInfo.TellsOf now item.linked.files (Row.ofItem item now).torrent ∧
    (∀ n, ∀ row ∈ (Row.ofItem item now).children, row.id = (item.idOf (.season n)).text →
      Row.SumsUpSeason item now n row) ∧
    (item.linked.title.kind = .series → ∀ f ∈ item.linked.files, 0 < f.file.season →
      ∃ row ∈ (Row.ofItem item now).children,
        row.id = (item.idOf (.season f.file.season)).text) ∧
    ∀ item' : Item,
      (item.linked.files.Perm item'.linked.files → (∀ f ∈ item.linked.files, f.HasNumber) →
        (Row.ofItem item now).torrent.agrees (Row.ofItem item' now).torrent = true) ∧
      ∀ n, (item.seasonFiles n).Perm (item'.seasonFiles n) →
        (∀ f ∈ item.seasonFiles n, f.HasNumber) →
        ∀ row ∈ (Row.ofItem item now).children, row.id = (item.idOf (.season n)).text →
        ∀ row' ∈ (Row.ofItem item' now).children, row'.id = (item'.idOf (.season n)).text →
          row.torrent.agrees row'.torrent = true ∧ row.added = row'.added := by
  refine ⟨Row.tellsOf_ofItem item now, fun n row hrow hid => Row.sumsUpSeason_of_mem hrow hid,
    fun hkind f hf hn => Row.exists_season_row hkind hf hn, fun item' => ⟨?_, ?_⟩⟩
  · intro hperm hnumbers
    exact (Row.tellsOf_ofItem item now).agrees_of_perm (Row.tellsOf_ofItem item' now) hperm hnumbers
  · intro n hperm hnumbers row hrow hid row' hrow' hid'
    have h := Row.sumsUpSeason_of_mem hrow hid
    have h' := Row.sumsUpSeason_of_mem hrow' hid'
    refine ⟨h.torrent.agrees_of_perm h'.torrent hperm hnumbers, ?_⟩
    obtain ⟨hnone, hnone'⟩ | ⟨f, g, hlike, hf, hg⟩ := h.added.of_perm h'.added hperm
      (fun _ _ => rfl) (fun _ _ => Eq.symm) fun _ _ _ => Eq.trans
    · rw [hnone, hnone']
    · rw [hf, hg, hlike]

/-! ## A season of two torrents, in either order -/

namespace Sample

/-- The series of two torrents with its files in the other order. -/
def reversedTwins : Item :=
  { twinsItem with linked := { twinsItem.linked with files := twinsItem.linked.files.reverse } }

theorem hasNumber_twins : ∀ f ∈ twinsItem.linked.files, f.HasNumber := by
  intro f hf t ht
  have hall : ∀ f ∈ twinsItem.linked.files,
      (f.torrent.map (·.ratio.isNaN)).getD false = false := by decide
  simpa [ht] using hall f hf

end Sample

open Sample in
/-- The files of the season have torrents that agree, and a file without a season stands between
them that has none. So the title does not tell a ratio, and the season does. -/
theorem torrents_of_twins_reversed :
    (Row.ofItem twinsItem ⟨0, 0⟩).torrent.agrees (Row.ofItem reversedTwins ⟨0, 0⟩).torrent = true ∧
    (Row.ofItem twinsItem ⟨0, 0⟩).torrent.ratio = none ∧
    ∃ row ∈ (Row.ofItem twinsItem ⟨0, 0⟩).children,
      ∃ row' ∈ (Row.ofItem reversedTwins ⟨0, 0⟩).children,
        row.id = "series-5-s-1" ∧ row'.id = row.id ∧ row.torrent.ratio = some (.ofNat 1) ∧
        row.torrent.agrees row'.torrent = true ∧ row.added = row'.added := by
  obtain ⟨-, -, -, hperm⟩ := torrents_of_rows twinsItem ⟨0, 0⟩
  obtain ⟨htitle, hseason⟩ := hperm reversedTwins
  have hfiles : twinsItem.linked.files.Perm reversedTwins.linked.files :=
    (List.reverse_perm _).symm
  have hrows := hseason 1 (hfiles.filter _)
    (fun f hf => hasNumber_twins f (List.mem_of_mem_filter hf)) _ List.mem_cons_self rfl _
    List.mem_cons_self rfl
  exact ⟨htitle hfiles hasNumber_twins, rfl, _, List.mem_cons_self, _, List.mem_cons_self, rfl, rfl,
    rfl, hrows⟩

end SeedCleanup

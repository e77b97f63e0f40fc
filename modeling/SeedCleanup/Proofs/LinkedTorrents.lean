import SeedCleanup.Proofs.DeletionOrder
import SeedCleanup.Proofs.FleetTheorems
import SeedCleanup.Proofs.RefreshTheorems
import SeedCleanup.Torrent.Backend

/-!
# The torrents that files are linked to

A deletion takes out the selected files and lets go of their torrents, and the other files keep the
links that the refresh gave them. So a file can be left with a link to a torrent that is gone, but
only if a deletion selected another file with that torrent (`linked_torrents_after_deletions`).
-/

namespace SeedCleanup

/-! ## What the managers of torrents list -/

/-- Torrents, each with the name of the client under which it is listed. -/
abbrev Listing := List (String × Torrent)

/-- What is listed but for the torrent that a key names. -/
def Listing.without (key : TorrentKey) (l : Listing) : Listing :=
  l.filter fun p => !(p.1 == key.client && p.2.id == key.id)

theorem Listing.mem_without_or {key : TorrentKey} {l : Listing} {p : String × Torrent}
    (h : p ∈ l) : p ∈ l.without key ∨ (⟨p.1, p.2.id⟩ : TorrentKey) = key := by
  by_cases hkey : (⟨p.1, p.2.id⟩ : TorrentKey) = key
  · exact .inr hkey
  · refine .inl (List.mem_filter.2 ⟨h, ?_⟩)
    have hne : ¬(p.1 = key.client ∧ p.2.id = key.id) := fun ⟨hclient, hid⟩ => hkey (by
      rw [hclient, hid])
    simpa [imp_iff_not_or, not_and_or] using hne

/-- The torrents of clients, each client's under its name. -/
def Clients.listing (t : SortedTable String (List Torrent)) : Listing :=
  t.entries.flatMap fun e => e.2.map (e.1, ·)

/-- A fleet of clients lists what its clients reported. -/
def Clients.Lists {σ : Type} (f : Clients σ) (l : Listing) : Prop :=
  ∃ t, f.entries = some t ∧ l = listing t

/-- A stand-in that is not about to fail lists each torrent under the client that it names. -/
def StandInClient.Lists (s : StandInClient) (l : Listing) : Prop :=
  s.nextError = none ∧ l = s.entries.map fun t => (t.client, t)

/-- The managers of torrents, each with what it lists. -/
inductive IsTorrentManager : {τ : Type} → TorrentManager τ → (τ → Listing → Prop) → Prop
  | clients {σ : Type} (source : TorrentSource σ) :
    IsTorrentManager (Clients.manager source) Clients.Lists
  | standIn : IsTorrentManager StandInClient.manager StandInClient.Lists

/-- A manager answers what it lists. It lists something from its first renewal on, and a deletion
takes out at most the torrent that it names. -/
structure ListsTorrents {τ : Type} (m : TorrentManager τ) (Lists : τ → Listing → Prop) : Prop where
  contents_run : ∀ {s l}, Lists s l → m.contents.run s = (.ok (l.map (·.2)), s)
  of_renew : ∀ {h folder folder' s s₁ s₂ limit stage found},
    m.renew h folder s = (.ok (), s₁, folder') →
      m.contents.within limit stage s₁ = (.ok found, s₂) → ∃ l, Lists s₂ l ∧ found = l.map (·.2)
  of_delete : ∀ {s s' l key limit stage answer}, Lists s l →
    (m.delete key).within limit stage s = (answer, s') →
      Lists s' l ∨ Lists s' (l.without key)

namespace Clients

variable {σ : Type} {source : TorrentSource σ}

theorem map_snd_listing (t : SortedTable String (List Torrent)) :
    (listing t).map (·.2) = t.values.flatten := by
  rw [listing, List.map_flatMap, SortedTable.values, ← List.flatMap_def]
  refine List.flatMap_congr fun e _ => ?_
  rw [List.map_map]
  exact List.map_id _

theorem listing_without (key : TorrentKey) (t : SortedTable String (List Torrent)) :
    (listing t).without key
      = listing (t.mapValues fun name l => if name == key.client then rules.without key l else l) := by
  rw [listing, Listing.without, List.filter_flatMap, listing, SortedTable.mapValues,
    List.flatMap_map]
  refine List.flatMap_congr fun e _ => ?_
  rw [List.filter_map]
  by_cases hname : e.1 = key.client
  · have hkept : ((fun p : String × Torrent => !(p.1 == key.client && p.2.id == key.id)) ∘ (e.1, ·))
        = fun t => t.id != key.id := by
      funext t
      simp [hname, bne]
    rw [hkept, if_pos (beq_iff_eq.2 hname)]
    rfl
  · have hkept : ((fun p : String × Torrent => !(p.1 == key.client && p.2.id == key.id)) ∘ (e.1, ·))
        = fun _ => true := by
      funext t
      simp [hname]
    rw [hkept, if_neg (mt beq_iff_eq.1 hname), List.filter_true]

theorem listsTorrents : ListsTorrents (Clients.manager source) Lists where
  contents_run := by
    rintro f l ⟨t, ht, rfl⟩
    rw [map_snd_listing]
    exact Fleet.contents_run_of_entries ht
  of_renew := by
    intro h folder folder' f f₁ f₂ limit stage found hrenew hfound
    obtain ⟨t, ht, -⟩ := Fleet.exists_entries_of_renew hrenew
    obtain ⟨rfl, rfl⟩ := Fleet.eq_of_contents_within ht hfound
    exact ⟨_, ⟨t, ht, rfl⟩, (map_snd_listing t).symm⟩
  of_delete := by
    rintro f f' l key limit stage answer ⟨t, ht, rfl⟩ hdelete
    obtain ⟨-, hentries⟩ | ⟨-, hentries⟩ := Fleet.entries_of_delete hdelete
    · refine .inr ⟨_, ?_, listing_without key t⟩
      rw [hentries, Fleet.setEntries, ht]
      rfl
    · exact .inl ⟨t, hentries.trans ht, rfl⟩

end Clients

namespace StandInClient

theorem takeError_of_quiet {s : StandInClient} (h : s.nextError = none) :
    s.takeError = (.ok (), s) := by
  simp only [StandIn.takeError, h]

theorem contents_of_quiet {s : StandInClient} (h : s.nextError = none) :
    StandIn.contents s = (.ok s.entries, s) := by
  simp only [StandIn.contents, takeError_of_quiet h]

theorem quiet_of_contents {s s' : StandInClient} {found : List Torrent}
    (h : StandIn.contents s = (.ok found, s')) : s.nextError = none := by
  cases herror : s.nextError with
  | none => rfl
  | some e =>
    simp only [StandIn.contents, StandIn.takeError, herror] at h
    exact nomatch (Prod.mk.inj h).1

theorem listing_filter_key (key : TorrentKey) (torrents : List Torrent) :
    (torrents.filter (·.key != key)).map (fun t => (t.client, t))
      = Listing.without key (torrents.map fun t => (t.client, t)) := by
  rw [Listing.without, List.filter_map]
  refine congrArg _ (List.filter_congr fun t _ => ?_)
  have hkey : t.key = key ↔ t.client = key.client ∧ t.id = key.id := by
    rw [Torrent.key, TorrentKey.mk.injEq]
  rw [Bool.eq_iff_iff]
  simp [hkey, imp_iff_not_or]

theorem lists_run_delete {s : StandInClient} {l : Listing} (h : Lists s l) (key : TorrentKey) :
    Lists (StandIn.delete rules key s).2 l ∨ Lists (StandIn.delete rules key s).2 (l.without key) := by
  obtain ⟨hquiet, rfl⟩ := h
  have htaken : s.takeError = (.ok (), s) := takeError_of_quiet hquiet
  by_cases hfound : s.entries.any (·.key == key) = true
  · right
    simp only [StandIn.delete, htaken, rules, without, hfound, if_true]
    exact ⟨hquiet, (listing_filter_key key s.entries).symm⟩
  · left
    simp only [StandIn.delete, htaken, rules, without, hfound, Bool.false_eq_true, if_false]
    exact ⟨hquiet, rfl⟩

theorem listsTorrents : ListsTorrents manager Lists where
  contents_run := by
    rintro s l ⟨hquiet, rfl⟩
    rw [List.map_map]
    refine (contents_of_quiet hquiet).trans ?_
    exact congrArg (fun l => (Except.ok l, s)) (List.map_id _).symm
  of_renew := by
    intro h folder folder' s s₁ s₂ limit stage found _ hfound
    have hrun : StandIn.contents s₁ = (.ok found, s₂) := Call.run_of_within_eq_ok hfound
    have hquiet := quiet_of_contents hrun
    rw [contents_of_quiet hquiet] at hrun
    obtain ⟨hentries, rfl⟩ := Prod.mk.inj hrun
    obtain rfl := Except.ok.inj hentries
    refine ⟨_, ⟨hquiet, rfl⟩, ?_⟩
    rw [List.map_map]
    exact (List.map_id _).symm
  of_delete := by
    intro s s' l key limit stage answer hl hdelete
    rw [Call.eq_of_within_immediate hdelete]
    exact lists_run_delete hl key

end StandInClient

theorem IsTorrentManager.listsTorrents {τ : Type} {m : TorrentManager τ}
    {Lists : τ → Listing → Prop} (h : IsTorrentManager m Lists) : ListsTorrents m Lists := by
  cases h with
  | clients source => exact Clients.listsTorrents
  | standIn => exact StandInClient.listsTorrents

/-! ## What a deletion leaves of the torrents -/

section

variable {μ τ ρ : Type} {b : Backends μ τ ρ} {Lists : τ → Listing → Prop}

/-- The calls of a deletion take out at most the torrents that they name. -/
theorem lists_of_follows (hm : ListsTorrents b.torrents Lists) {title : String}
    {keys : List TorrentKey} {d : FileDeletion} {made : List DeletionCall}
    {s s' : Inventory μ τ ρ} {result : Except InventoryError Unit} {l : Listing}
    (hl : Lists s.torrents l)
    (h : Follows b title (keys.map .torrent ++ [.files d]) s made result s') :
    ∃ l', Lists s'.torrents l' ∧ ∀ p ∈ l, p ∈ l' ∨ ⟨p.1, p.2.id⟩ ∈ keys := by
  induction keys generalizing s made l with
  | nil =>
    have hkept : ∀ answer s₁, (DeletionCall.files d).make b title s = (answer, s₁) →
        Lists s₁.torrents l := by
      intro answer s₁ hmake
      rw [← (Prod.mk.inj hmake).2]
      exact hl
    cases h with
    | next hmake hgo hrest =>
      cases hrest
      exact ⟨l, hkept _ _ hmake, fun p hp => .inl hp⟩
    | stopped hmake hstop => exact ⟨l, hkept _ _ hmake, fun p hp => .inl hp⟩
  | cons key keys ih =>
    have hcall : ∀ answer s₁, (DeletionCall.torrent key).make b title s = (answer, s₁) →
        ∃ l₁, Lists s₁.torrents l₁ ∧ ∀ p ∈ l, p ∈ l₁ ∨ (⟨p.1, p.2.id⟩ : TorrentKey) = key := by
      intro answer s₁ hmake
      rw [← (Prod.mk.inj hmake).2]
      obtain hsame | hfewer := hm.of_delete hl rfl
      · exact ⟨l, hsame, fun p hp => .inl hp⟩
      · exact ⟨_, hfewer, fun p hp => Listing.mem_without_or hp⟩
    cases h with
    | next hmake hgo hrest =>
      obtain ⟨l₁, hl₁, hkept⟩ := hcall _ _ hmake
      obtain ⟨l', hl', hlater⟩ := ih hl₁ hrest
      refine ⟨l', hl', fun p hp => ?_⟩
      obtain hp | rfl := hkept p hp
      · exact (hlater p hp).imp_right (List.mem_cons_of_mem _)
      · exact .inr List.mem_cons_self
    | stopped hmake hstop =>
      obtain ⟨l₁, hl₁, hkept⟩ := hcall _ _ hmake
      refine ⟨l₁, hl₁, fun p hp => (hkept p hp).imp_right ?_⟩
      rintro rfl
      exact List.mem_cons_self

namespace Inventory

/-- The files that a text selects. -/
def selectedBy (text : String) (s : Inventory μ τ ρ) : List LinkedFile :=
  match (MediaId.parse text), s.items with
  | some id, some items => ((selection? id items).map (·.selected id)).getD []
  | _, _ => []

variable (b) in
/-- The files that are selected in the course of deletions. -/
def selectedByEach : List String → Inventory μ τ ρ → List LinkedFile
  | [], _ => []
  | text :: rest, s => s.selectedBy text ++ selectedByEach rest (s.delete b text).2

end Inventory

/-- Whatever is listed no more is the torrent of a file that was selected. -/
def AccountedFor (selected : List LinkedFile) (l l' : Listing) : Prop :=
  ∀ p ∈ l, p ∈ l' ∨ ∃ f ∈ selected, ∃ t, f.torrent = some t ∧ t.key = ⟨p.1, p.2.id⟩

theorem AccountedFor.trans {selected selected' : List LinkedFile} {l l₁ l₂ : Listing}
    (h : AccountedFor selected l l₁) (h' : AccountedFor selected' l₁ l₂) :
    AccountedFor (selected ++ selected') l l₂ := by
  intro p hp
  obtain hp₁ | ⟨f, hf, hgone⟩ := h p hp
  · obtain hp₂ | ⟨f, hf, hgone⟩ := h' p hp₁
    · exact .inl hp₂
    · exact .inr ⟨f, List.mem_append_right _ hf, hgone⟩
  · exact .inr ⟨f, List.mem_append_left _ hf, hgone⟩

theorem mem_torrentKeys {files : List LinkedFile} {key : TorrentKey} :
    key ∈ torrentKeys files ↔ ∃ f ∈ files, ∃ t, f.torrent = some t ∧ t.key = key := by
  rw [torrentKeys, List.mem_eraseDups, List.mem_filterMap]
  simp only [Option.map_eq_some_iff]

theorem selectedBy_of_selects {text : String} {s : Inventory μ τ ρ} {id : MediaId}
    {before after : List Item} {item : Item} (h : Selects text s id before item after) :
    s.selectedBy text = item.selected id := by
  have hselection := (exists_selects_iff h.parse_eq h.items_eq).1 ⟨before, after, h⟩
  simp only [Inventory.selectedBy, h.parse_eq, h.items_eq, hselection, Option.map_some,
    Option.getD_some]

/-! ## Deletions -/

/-- A deletion lets go of no torrent but those of the files that it selects. -/
theorem exists_lists_delete (hm : ListsTorrents b.torrents Lists) {s : Inventory μ τ ρ}
    {l : Listing} (hl : Lists s.torrents l) (text : String) :
    ∃ l', Lists (s.delete b text).2.torrents l' ∧ AccountedFor (s.selectedBy text) l l' := by
  obtain ⟨e, hrefused⟩ | ⟨id, before, item, after, made, result, s', hselects, hcalls, hdelete⟩ :=
    delete_refused_or_follows b text s
  · rw [hrefused]
    exact ⟨l, hl, fun p hp => .inl hp⟩
  · obtain ⟨l', hl', hkept⟩ := lists_of_follows hm hl hcalls
    have hstate : (s.delete b text).2.torrents = s'.torrents := by
      rw [hdelete]
      cases result <;> rfl
    rw [hstate, selectedBy_of_selects hselects]
    exact ⟨l', hl', fun p hp => (hkept p hp).imp_right mem_torrentKeys.1⟩

/-- A deletion only takes files away from the items. -/
theorem exists_items_delete {s : Inventory μ τ ρ} {items : List Item} (hitems : s.items = some items)
    (text : String) :
    ∃ items', (s.delete b text).2.items = some items' ∧
      List.SublistForall₂ Item.RemainsOf items' items := by
  rcases hdelete : s.delete b text with ⟨result, s'⟩
  obtain ⟨e, -, hsame⟩ | ⟨id, items₁, item, -, hitems₁, -, -, hafter⟩ := Inventory.delete_cases hdelete
  · exact ⟨items, hsame.trans hitems, refl items⟩
  · obtain rfl : items = items₁ := Option.some.inj (hitems.symm.trans hitems₁)
    exact ⟨_, hafter, sublistForall₂_withoutSelected id items⟩

theorem exists_deleteEach (hm : ListsTorrents b.torrents Lists) (texts : List String)
    {s : Inventory μ τ ρ} {items : List Item} {l : Listing} (hitems : s.items = some items)
    (hl : Lists s.torrents l) :
    ∃ items' l', (s.deleteEach b texts).2.items = some items' ∧
      List.SublistForall₂ Item.RemainsOf items' items ∧
      Lists (s.deleteEach b texts).2.torrents l' ∧ AccountedFor (s.selectedByEach b texts) l l' := by
  induction texts generalizing s items l with
  | nil => exact ⟨items, l, hitems, refl items, hl, fun p hp => .inl hp⟩
  | cons text rest ih =>
    obtain ⟨items₁, hitems₁, hremains₁⟩ := exists_items_delete hitems text
    obtain ⟨l₁, hl₁, haccounted₁⟩ := exists_lists_delete hm hl text
    obtain ⟨items', l', hitems', hremains, hl', haccounted⟩ := ih hitems₁ hl₁
    exact ⟨items', l', hitems', IsTrans.trans _ _ _ hremains hremains₁, hl', haccounted₁.trans haccounted⟩

/-! ## The refresh before -/

/-- A file is linked to one of the torrents that it was linked with. -/
theorem mem_of_mem_linkMedia {held : List MediaEntry} {found : List Torrent} {linked : LinkedTitle}
    (hlinked : linked ∈ linkMedia held found) {f : LinkedFile} (hf : f ∈ linked.files) {t : Torrent}
    (ht : f.torrent = some t) : t ∈ found := by
  obtain ⟨e, -, -, rfl⟩ := mem_linkMedia.1 hlinked
  obtain ⟨file, -, rfl⟩ := List.mem_map.1 hf
  exact List.mem_of_find?_eq_some ht

/-- Every item that is left is what remains of some item. -/
theorem exists_remainsOf {items items₀ : List Item}
    (h : List.SublistForall₂ Item.RemainsOf items items₀) {item : Item} (hitem : item ∈ items) :
    ∃ item₀ ∈ items₀, item.RemainsOf item₀ := by
  induction h with
  | nil => exact absurd hitem List.not_mem_nil
  | cons hremains _ ih =>
    obtain rfl | hitem := List.mem_cons.1 hitem
    · exact ⟨_, List.mem_cons_self, hremains⟩
    · obtain ⟨item₀, hitem₀, hremains⟩ := ih hitem
      exact ⟨item₀, List.mem_cons_of_mem _ hitem₀, hremains⟩
  | cons_right _ ih =>
    obtain ⟨item₀, hitem₀, hremains⟩ := ih hitem
    exact ⟨item₀, List.mem_cons_of_mem _ hitem₀, hremains⟩

/-- The torrents of items that a refresh makes are listed after it. -/
theorem exists_listing_of_refresh (hm : ListsTorrents b.torrents Lists) {now : Instant}
    {s s' : Inventory μ τ ρ} {items : List Item} (h : s.refresh b now = (.ok items, s')) :
    ∃ l, Lists s'.torrents l ∧ s'.items = some items ∧
      ∀ item ∈ items, ∀ f ∈ item.linked.files, ∀ t, f.torrent = some t →
        ∃ client, (client, t) ∈ l := by
  cases Inventory.refreshed_of_refresh h with
  | @intro torrents torrents' media media' folder folder' held found trackers htorrents hmedia
      hheld hfound hitems =>
    obtain ⟨l, hl, rfl⟩ := hm.of_renew htorrents hfound
    refine ⟨l, hl, rfl, fun item hitem f hf t ht => ?_⟩
    have hlinked : item.linked ∈ linkMedia held (l.map (·.2)) := by
      rw [← Item.map_linked_of_ofLinked hitems]
      exact List.mem_map_of_mem hitem
    have hfound : t ∈ l.map (·.2) := mem_of_mem_linkMedia hlinked hf ht
    obtain ⟨p, hp, rfl⟩ := List.mem_map.1 hfound
    exact ⟨p.1, hp⟩

/-- After a refresh that succeeds and any deletions, the items are those of the refresh without some
files. A torrent that one of their files is linked to is still listed, unless a deletion selected a
file whose torrent has its number and names the client under which it was listed. -/
theorem linked_torrents_after_deletions (hm : IsTorrentManager b.torrents Lists) {now : Instant}
    {s s₀ : Inventory μ τ ρ} {items₀ : List Item} (hrefresh : s.refresh b now = (.ok items₀, s₀))
    (texts : List String) :
    ∃ l items held, Lists s₀.torrents l ∧ (s₀.deleteEach b texts).2.items = some items ∧
      (b.torrents.contents.run (s₀.deleteEach b texts).2.torrents).1 = .ok held ∧
      List.SublistForall₂ Item.RemainsOf items items₀ ∧
      ∀ item ∈ items, ∀ f ∈ item.linked.files, ∀ t, f.torrent = some t →
        ∃ client, (client, t) ∈ l ∧
          (t ∈ held ∨ ∃ g ∈ s₀.selectedByEach b texts, ∃ u,
            g.torrent = some u ∧ u.key = ⟨client, t.id⟩) := by
  have hlists := hm.listsTorrents
  obtain ⟨l, hl, hitems₀, hlinked⟩ := exists_listing_of_refresh hlists hrefresh
  obtain ⟨items, l', hitems, hremains, hl', haccounted⟩ := exists_deleteEach hlists texts hitems₀ hl
  refine ⟨l, items, l'.map (·.2), hl, hitems, ?_, hremains, fun item hitem f hf t ht => ?_⟩
  · rw [hlists.contents_run hl']
  · -- the file has kept the link that the refresh gave it
    obtain ⟨item₀, hitem₀, hremains⟩ : ∃ item₀ ∈ items₀, item.RemainsOf item₀ :=
      exists_remainsOf hremains hitem
    obtain ⟨client, hlisted⟩ := hlinked item₀ hitem₀ f (hremains.sublist.mem hf) t ht
    refine ⟨client, hlisted, ?_⟩
    obtain hkept | hgone := haccounted _ hlisted
    · exact .inl (List.mem_map_of_mem hkept)
    · exact .inr hgone

end

namespace Sample

/-- A series with two seasons. -/
def twoSeasons : MediaEntry :=
  ⟨⟨5, .series, "Beta", "", ⟨0, 0⟩⟩, [⟨1, 1, "e1.mkv", 10⟩, ⟨2, 2, "e2.mkv", 20⟩]⟩

/-- A torrent with the files of both seasons. -/
def pack : Torrent :=
  ⟨"qbit", "pack", "pack", .ofNat 1, ⟨0, 0⟩, ["tracker.org"], [⟨"e1.mkv", 10⟩, ⟨"e2.mkv", 20⟩]⟩

def packBackends : Backends StandInLibrary (Clients MemoryClient) Trackers :=
  ⟨StandInLibrary.manager, Clients.manager MemorySource.source, Trackers.resolver,
    ⟨.live false, none, ""⟩⟩

def packInventory : Inventory StandInLibrary (Clients MemoryClient) Trackers where
  media := { backend := [twoSeasons] }
  torrents := .ofSources [("qbit", { held := [pack] })]
  trackers := .rules rules

/-- The inventory of the pack after a refresh. -/
def packRefreshed : Inventory StandInLibrary (Clients MemoryClient) Trackers :=
  (packInventory.refresh packBackends ⟨0, 0⟩).2

/-- The inventory of the pack after the deletion of a season. -/
def packHalved : Inventory StandInLibrary (Clients MemoryClient) Trackers :=
  (packRefreshed.deleteEach packBackends ["series-5-s-1"]).2

end Sample

open Sample in
/-- The second season keeps its link to a torrent that was deleted with the first. -/
theorem season_linked_to_deleted_pack :
    (∃ items, packInventory.refresh packBackends ⟨0, 0⟩ = (.ok items, packRefreshed)) ∧
    (packRefreshed.deleteEach packBackends ["series-5-s-1"]).1 = [.ok ()] ∧
    (∃ items, packHalved.items = some items ∧
      ∃ item ∈ items, ∃ f ∈ item.linked.files, f.torrent = some pack) ∧
    (packBackends.torrents.contents.run packHalved.torrents).1 = .ok [] := by
  have hitems : packHalved.items
      = some [(rules.item ⟨0, 0⟩ ⟨twoSeasons.title, twoSeasons.files.map (·.link [pack])⟩).withoutFiles
          (·.season == 1)] := rfl
  refine ⟨⟨_, rfl⟩, rfl, ⟨_, hitems, _, List.mem_cons_self, ?_⟩, rfl⟩
  exact ⟨⟨⟨2, 2, "e2.mkv", 20⟩, some pack⟩, List.mem_cons_self, rfl⟩

open Sample in
/-- The deleted torrent was that of the first season too. -/
theorem pack_was_selected :
    ∃ g ∈ packRefreshed.selectedByEach packBackends ["series-5-s-1"], ∃ u,
      g.torrent = some u ∧ u.key = ⟨"qbit", "pack"⟩ := by
  obtain ⟨items₀, hrefresh⟩ : ∃ items₀,
      packInventory.refresh packBackends ⟨0, 0⟩ = (.ok items₀, packRefreshed) := ⟨_, rfl⟩
  obtain ⟨l, items, held, ⟨t, ht, rfl⟩, hitems, hheld, -, hlinks⟩ :=
    linked_torrents_after_deletions (.clients MemorySource.source) hrefresh ["series-5-s-1"]
  have hhalved : packHalved.items
      = some [(rules.item ⟨0, 0⟩ ⟨twoSeasons.title, twoSeasons.files.map (·.link [pack])⟩).withoutFiles
          (·.season == 1)] := rfl
  obtain rfl := Option.some.inj (hitems.symm.trans hhalved)
  obtain rfl : [] = held := Except.ok.inj hheld
  obtain ⟨client, hlisted, hgone⟩ := hlinks _ List.mem_cons_self
    ⟨⟨2, 2, "e2.mkv", 20⟩, some pack⟩ List.mem_cons_self pack rfl
  have hlisting : Clients.listing t = [("qbit", pack)] := by
    rw [← Option.some.inj ht]
    rfl
  rw [hlisting] at hlisted
  obtain ⟨rfl, -⟩ := Prod.mk.inj (List.mem_singleton.1 hlisted)
  exact hgone.resolve_left List.not_mem_nil

end SeedCleanup

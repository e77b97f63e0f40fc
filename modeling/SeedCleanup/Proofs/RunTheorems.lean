import SeedCleanup.Inventory.Request
import SeedCleanup.Proofs.DeletionTheorems
import SeedCleanup.Proofs.ItemTheorems
import SeedCleanup.Proofs.LinkTheorems
import SeedCleanup.Proofs.RefreshTheorems
import SeedCleanup.Proofs.RetentionSafety

/-!
# Runs of an inventory

An inventory is asked one thing after another, while its backends change as they like (`Run`).
Whatever is asked and whatever the managers answer, the items are coherent, and they are what
deletions left of the items that the last successful refresh published.
-/

namespace SeedCleanup

/-- What a refresh published: what the managers held, and the items made of it. -/
structure Publication where
  media : List MediaEntry
  torrents : List Torrent
  items : List Item

namespace Inventory

variable {μ τ ρ : Type} (b : Backends μ τ ρ) (now : Instant)

/-- What a refresh publishes, if it succeeds. -/
def published? (s : Inventory μ τ ρ) : Option Publication :=
  match s.gather b, s.refresh b now with
  | (.ok (media, torrents), _), (.ok items, _) => some ⟨media, torrents, items⟩
  | _, _ => none

/-- What a request publishes. A read refreshes when there are no items yet. -/
def publication? (request : Request) (s : Inventory μ τ ρ) : Option Publication :=
  match request with
  | .refresh => s.published? b now
  | .delete _ => none
  | .list _ _ => if s.items.isNone then s.published? b now else none
  | .expand id =>
    if (MediaId.parse id).isSome ∧ s.items.isNone then s.published? b now else none

/-- The inventories that can come about, each with what was published last. Between requests the
managers, the resolver and the folder may come into any state. -/
inductive Run : Inventory μ τ ρ → Option Publication → Prop
  | start {s : Inventory μ τ ρ} (h : s.items = none) : Run s none
  | outside {s : Inventory μ τ ρ} {last : Option Publication} (media : μ) (torrents : τ)
      (trackers : ρ) (folder : SnapshotFolder) (h : Run s last) :
      Run { s with media, torrents, trackers, folder } last
  | request {s : Inventory μ τ ρ} {last : Option Publication} (now : Instant) (r : Request)
      (h : Run s last) : Run (s.perform b now r).2 ((s.publication? b now r).or last)

/-! ## What a request does to the items -/

/-- How a request may change the items, with what it publishes. -/
inductive Effect (s s' : Inventory μ τ ρ) : Option Publication → Prop
  | kept (h : s'.items = s.items) : Effect s s' none
  | published (p : Publication) (trackers : ρ)
      (hmade : Item.ofLinked b.trackers now (linkMedia p.media p.torrents) s.trackers
        = (.ok p.items, trackers))
      (h : s'.items = some p.items) : Effect s s' (some p)
  | deleted (id : MediaId) (items : List Item) (hbefore : s.items = some items)
      (h : s'.items = some (withoutSelected id items)) : Effect s s' none

variable {b now}

theorem effect_refresh (s : Inventory μ τ ρ) :
    Effect b now s (s.refresh b now).2 (s.published? b now) := by
  rcases hr : s.refresh b now with ⟨result, s'⟩
  obtain ⟨e, rfl, hitems⟩ | ⟨media, torrents, s₁, items, trackers, hg, hl, rfl, rfl⟩ :=
    refresh_cases hr
  · have hnone : s.published? b now = none := by simp [published?, hr]
    rw [hnone]
    exact .kept hitems
  · have hsome : s.published? b now = some ⟨media, torrents, items⟩ := by
      simp only [published?, hr, hg]
    rw [hsome]
    exact .published _ trackers hl rfl

theorem effect_populated (s : Inventory μ τ ρ) :
    Effect b now s (s.populated b now).2 (if s.items.isNone then s.published? b now else none) := by
  unfold populated
  cases hitems : s.items with
  | some items => exact .kept rfl
  | none => exact effect_refresh s

theorem effect_list (page : UInt64) (sorting : Sorting) (s : Inventory μ τ ρ) :
    Effect b now s (s.list b now page sorting).2
      (if s.items.isNone then s.published? b now else none) := by
  have heq : (s.list b now page sorting).2 = (s.populated b now).2 := by
    unfold list
    rcases s.populated b now with ⟨_ | _, s'⟩ <;> rfl
  rw [heq]
  exact effect_populated s

theorem effect_expand (text : String) (s : Inventory μ τ ρ) :
    Effect b now s (s.expand b now text).2
      (if (MediaId.parse text).isSome ∧ s.items.isNone then s.published? b now else none) := by
  unfold expand
  cases hid : MediaId.parse text with
  | none => exact .kept rfl
  | some id =>
    have h : Effect b now s _ _ := effect_populated s
    rcases hp : s.populated b now with ⟨_ | items, s'⟩
    · simpa [hp] using h
    · simpa [hp] using h

theorem effect_delete (text : String) (s : Inventory μ τ ρ) :
    Effect b now s (s.delete b text).2 none := by
  rcases hd : s.delete b text with ⟨result, s'⟩
  obtain ⟨e, -, hitems⟩ | ⟨id, items, item, -, hitems, -, -, hafter⟩ := delete_cases hd
  · exact .kept hitems
  · exact .deleted id items hitems hafter

/-- Every request keeps the items, publishes new ones, or deletes from them. -/
theorem effect_perform (r : Request) (s : Inventory μ τ ρ) :
    Effect b now s (s.perform b now r).2 (s.publication? b now r) := by
  cases r with
  | refresh => exact effect_refresh s
  | delete id => exact effect_delete id s
  | list page sorting => exact effect_list page sorting s
  | expand id => exact effect_expand id s

/-! ## What every run keeps -/

/-- Items are coherent and are what deletions left of a publication, whose items are titles that the
media manager reported. -/
structure RestsOn (items : List Item) (p : Publication) : Prop where
  coherent : ∀ item ∈ items, item.Coherent
  remains : List.SublistForall₂ Item.RemainsOf items p.items
  reported : (p.items.map (·.linked.title)).Sublist (p.media.map (·.title))

theorem restsOn_of_ofLinked {σ : Type} {r : TrackerResolver σ} {p : Publication} {t t' : σ}
    (h : Item.ofLinked r now (linkMedia p.media p.torrents) t = (.ok p.items, t')) :
    RestsOn p.items p := by
  have hfiles : ∀ media ∈ linkMedia p.media p.torrents, media.files ≠ [] := by
    intro media hmedia
    obtain ⟨e, -, hne, rfl⟩ := mem_linkMedia.1 hmedia
    simpa using hne
  obtain ⟨hlinked, hcoherent⟩ := Item.coherent_of_ofLinked hfiles h
  refine ⟨hcoherent, refl p.items, ?_⟩
  have htitles : p.items.map (·.linked.title) = (linkMedia p.media p.torrents).map (·.title) := by
    rw [← hlinked, List.map_map]
    rfl
  rw [htitles, linkMedia, List.map_map]
  exact List.filter_sublist.map _

theorem RestsOn.without {items : List Item} {p : Publication} (h : RestsOn items p)
    (id : MediaId) : RestsOn (withoutSelected id items) p where
  coherent := coherent_withoutSelected id h.coherent
  remains := IsTrans.trans _ _ _ (sublistForall₂_withoutSelected id items) h.remains
  reported := h.reported

/-- If no two reported titles have one key, no two items have. -/
theorem RestsOn.nodup_keys {items : List Item} {p : Publication} (h : RestsOn items p)
    (hnodup : (p.media.map (·.title.key)).Nodup) : (items.map (·.linked.title.key)).Nodup := by
  obtain ⟨whole, hforall, hsub⟩ := List.sublistForall₂_iff.1 h.remains
  have htitles : items.map (·.linked.title) = whole.map (·.linked.title) := by
    rw [← List.forall₂_eq_eq_eq, List.forall₂_map_left_iff, List.forall₂_map_right_iff]
    exact hforall.imp fun _ _ hr => hr.title_eq
  have hreported : (items.map (·.linked.title)).Sublist (p.media.map (·.title)) := by
    rw [htitles]
    exact (hsub.map _).trans h.reported
  have hkeys := hreported.map Title.key
  rw [List.map_map, List.map_map] at hkeys
  exact hkeys.nodup hnodup

theorem restsOn_of_effect {s s' : Inventory μ τ ρ} {last new : Option Publication}
    (heffect : Effect b now s s' new)
    (h : ∀ items, s.items = some items → ∃ p, last = some p ∧ RestsOn items p) :
    ∀ items, s'.items = some items → ∃ p, new.or last = some p ∧ RestsOn items p := by
  intro items hitems
  cases heffect with
  | kept hkept => exact h items (hkept.symm.trans hitems)
  | published p trackers hmade hafter =>
    obtain rfl := Option.some.inj (hafter.symm.trans hitems)
    exact ⟨p, rfl, restsOn_of_ofLinked hmade⟩
  | deleted id before hbefore hafter =>
    obtain rfl := Option.some.inj (hafter.symm.trans hitems)
    obtain ⟨p, hlast, hrest⟩ := h before hbefore
    exact ⟨p, hlast, hrest.without id⟩

/-- Along every run the items rest on what was published last. -/
theorem Run.restsOn {s : Inventory μ τ ρ} {last : Option Publication} (h : Run b s last) :
    ∀ items, s.items = some items → ∃ p, last = some p ∧ RestsOn items p := by
  induction h with
  | start hnone =>
    intro items hitems
    rw [hnone] at hitems
    cases hitems
  | outside _ _ _ _ _ ih => exact ih
  | request now r _ ih => exact restsOn_of_effect (effect_perform r _) ih

/-- Whatever was asked of an inventory and whatever the managers answered: its items are coherent,
they are titles of the last publication in their order with some of their files in their order, and
no two of them have one key if the media manager did not report two titles with one key. -/
theorem items_of_run {s : Inventory μ τ ρ} {last : Option Publication} (h : Run b s last)
    {items : List Item} (hitems : s.items = some items) :
    (∀ item ∈ items, item.Coherent) ∧
    ∃ p, last = some p ∧ List.SublistForall₂ Item.RemainsOf items p.items ∧
      ((p.media.map (·.title.key)).Nodup → (items.map (·.linked.title.key)).Nodup) := by
  obtain ⟨p, hlast, hrest⟩ := h.restsOn items hitems
  exact ⟨hrest.coherent, p, hlast, hrest.remains, hrest.nodup_keys⟩

end Inventory

/-! ## A deletion after a refresh -/

namespace Sample

/-- The sample inventory after a refresh and the deletion of the file without a torrent. -/
def afterDeletion : Inventory StandInLibrary StandInClient Trackers :=
  ((inventory.perform backends ⟨0, 0⟩ .refresh).2.perform backends ⟨0, 0⟩
    (.delete "movie-1-11")).2

end Sample

open Sample in
theorem coherent_after_deletion :
    ∃ items, afterDeletion.items = some items ∧
      items.map (·.linked.files) = [[seeded.link [torrent]]] ∧ ∀ item ∈ items, item.Coherent := by
  have hrun : Inventory.Run backends afterDeletion _ :=
    .request ⟨0, 0⟩ (.delete "movie-1-11") (.request ⟨0, 0⟩ .refresh (.start rfl))
  have hitems : afterDeletion.items
      = some [(rules.item ⟨0, 0⟩ ⟨movie.title, movie.files.map (·.link [torrent])⟩).withoutFiles
          (·.id == 11)] := rfl
  exact ⟨_, hitems, rfl, (Inventory.items_of_run hrun hitems).1⟩

end SeedCleanup

import SeedCleanup.Inventory.Refresh

/-!
# The two halves of a refresh

A refresh first gathers what the managers hold (`gather`) and then publishes items made of it. Only
the second half touches the items, so a refresh that fails leaves them as they were
(`refresh_cases`).
-/

namespace SeedCleanup

/-! ## Evaluating many titles -/

namespace Item

variable {σ : Type} {r : TrackerResolver σ} {now : Instant}

/-- If finding trackers changes nothing and every title has a report, these are the items. -/
theorem ofLinked_eq_ok {linked : List LinkedTitle} {s : σ} {report : LinkedTitle → Report}
    (h : ∀ media ∈ linked, media.evaluate r now s = (.ok (report media), s)) :
    ofLinked r now linked s = (.ok (linked.map fun media => .of media (report media)), s) := by
  induction linked with
  | nil => rfl
  | cons media rest ih =>
    obtain ⟨hmedia, hrest⟩ := List.forall_mem_cons.1 h
    simp only [ofLinked, hmedia, ih hrest, List.map_cons]

end Item

namespace Inventory

variable {μ τ ρ : Type} (b : Backends μ τ ρ) (now : Instant)

/-! ## Gathering and publishing -/

/-- Renew both copies and fetch what the managers hold, without looking at it. -/
def gather (s : Inventory μ τ ρ) :
    Except InventoryError (List MediaEntry × List Torrent) × Inventory μ τ ρ :=
  let (torrents, s) := s.renewTorrents b
  let (media, s) := s.renewMedia b
  match failures b media torrents with
  | [] =>
    match s.heldMedia b with
    | (.error e, s) => (.error e, s)
    | (.ok media, s) =>
      match s.heldTorrents b with
      | (.error e, s) => (.error e, s)
      | (.ok torrents, s) => (.ok (media, torrents), s)
  | failed => (.error (.refresh failed), s)

/-- A refresh publishes what it gathered. -/
theorem refresh_eq_gather (s : Inventory μ τ ρ) :
    s.refresh b now
      = match s.gather b with
        | (.error e, s) => (.error e, s)
        | (.ok (media, torrents), s) => s.publish b now media torrents := by
  rcases ht : s.renewTorrents b with ⟨torrents, s₁⟩
  rcases hm : s₁.renewMedia b with ⟨media, s₂⟩
  cases hf : failures b media torrents with
  | cons e rest => simp only [refresh, finishRefresh, gather, ht, hm, hf]
  | nil =>
    simp only [refresh, finishRefresh, rebuild, gather, ht, hm, hf]
    rcases s₂.heldMedia b with ⟨_ | held, s₃⟩
    · rfl
    · simp only
      rcases s₃.heldTorrents b with ⟨_ | _, s₄⟩ <;> rfl

/-- Gathering touches neither the items nor the way trackers are found. -/
theorem gather_frame (s : Inventory μ τ ρ) :
    (s.gather b).2.items = s.items ∧ (s.gather b).2.trackers = s.trackers := by
  -- every step replaces the managers' states and the folder only
  let kept (s : Inventory μ τ ρ) := (s.items, s.trackers)
  suffices h : kept (s.gather b).2 = kept s from Prod.mk.inj h
  rcases ht : s.renewTorrents b with ⟨torrents, s₁⟩
  have h₁ : kept s₁ = kept s := congrArg (fun x => kept x.2) ht.symm
  rcases hm : s₁.renewMedia b with ⟨media, s₂⟩
  have h₂ : kept s₂ = kept s := (congrArg (fun x => kept x.2) hm.symm).trans h₁
  simp only [gather, ht, hm]
  split
  · rcases hmedia : s₂.heldMedia b with ⟨e | held, s₃⟩
    · exact (congrArg (fun x => kept x.2) hmedia.symm).trans h₂
    · have h₃ : kept s₃ = kept s := (congrArg (fun x => kept x.2) hmedia.symm).trans h₂
      simp only
      rcases htorrents : s₃.heldTorrents b with ⟨_ | _, s₄⟩
      · exact (congrArg (fun x => kept x.2) htorrents.symm).trans h₃
      · exact (congrArg (fun x => kept x.2) htorrents.symm).trans h₃
  · exact h₂

variable {b now}

/-- A refresh fails and leaves the items alone, or it publishes the items of what it gathered. -/
theorem refresh_cases {s s' : Inventory μ τ ρ} {result : Except InventoryError (List Item)}
    (h : s.refresh b now = (result, s')) :
    (∃ e, result = .error e ∧ s'.items = s.items) ∨
    (∃ media torrents s₁ items trackers, s.gather b = (.ok (media, torrents), s₁) ∧
      Item.ofLinked b.trackers now (linkMedia media torrents) s.trackers = (.ok items, trackers) ∧
      result = .ok items ∧ s' = { s₁ with trackers, items := some items }) := by
  rw [refresh_eq_gather] at h
  obtain ⟨hitems, htrackers⟩ := gather_frame b s
  rcases hg : s.gather b with ⟨e | ⟨media, torrents⟩, s₁⟩
  · rw [hg] at h hitems
    cases h
    exact .inl ⟨e, rfl, hitems⟩
  · rw [hg] at h hitems htrackers
    simp only [publish] at h
    rw [htrackers] at h
    rcases hl : Item.ofLinked b.trackers now (linkMedia media torrents) s.trackers
      with ⟨e | items, trackers⟩
    · rw [hl] at h
      cases h
      exact .inl ⟨e, rfl, hitems⟩
    · rw [hl] at h
      cases h
      exact .inr ⟨media, torrents, s₁, items, trackers, rfl, hl, rfl, rfl⟩

/-- What a refresh that succeeds has done. -/
inductive Refreshed (b : Backends μ τ ρ) (now : Instant) (s : Inventory μ τ ρ) (items : List Item) :
    Inventory μ τ ρ → Prop
  | intro {torrents torrents' : τ} {media media' : μ} {folder folder' : SnapshotFolder}
      {held : List MediaEntry} {found : List Torrent} {trackers : ρ}
      (htorrents : b.torrents.renew b.habits s.folder s.torrents = (.ok (), torrents, folder))
      (hmedia : b.media.renew b.habits folder s.media = (.ok (), media, folder'))
      (hheld : b.media.contents.within b.habits.limit "get media" media = (.ok held, media'))
      (hfound : b.torrents.contents.within b.habits.limit "get torrents" torrents
        = (.ok found, torrents'))
      (hitems : Item.ofLinked b.trackers now (linkMedia held found) s.trackers
        = (.ok items, trackers)) :
      Refreshed b now s items ⟨media', torrents', trackers, folder', some items⟩

theorem failures_eq_nil {media torrents : Except InventoryError Unit}
    (h : failures b media torrents = []) : media = .ok () ∧ torrents = .ok () := by
  cases media with
  | error e => exact nomatch h
  | ok =>
    cases torrents with
    | error e => exact nomatch h
    | ok => exact ⟨rfl, rfl⟩

/-- What is gathered is what both managers hold after their renewals. -/
theorem gather_eq_ok {s s₁ : Inventory μ τ ρ} {held : List MediaEntry} {found : List Torrent}
    (h : s.gather b = (.ok (held, found), s₁)) :
    ∃ torrents media folder,
      b.torrents.renew b.habits s.folder s.torrents = (.ok (), torrents, folder) ∧
      b.media.renew b.habits folder s.media = (.ok (), media, s₁.folder) ∧
      b.media.contents.within b.habits.limit "get media" media = (.ok held, s₁.media) ∧
      b.torrents.contents.within b.habits.limit "get torrents" torrents
        = (.ok found, s₁.torrents) := by
  unfold gather at h
  rcases ht : b.torrents.renew b.habits s.folder s.torrents with ⟨torrents, t, folder⟩
  rcases hm : b.media.renew b.habits folder s.media with ⟨media, m, folder'⟩
  simp only [renewTorrents, ht, renewMedia, hm] at h
  split at h
  · rename_i hnone
    obtain ⟨rfl, rfl⟩ := failures_eq_nil hnone
    rcases hheld : b.media.contents.within b.habits.limit "get media" m with ⟨e | l, m'⟩
    · simp only [heldMedia, hheld] at h
      exact nomatch (Prod.mk.inj h).1
    rcases hfound : b.torrents.contents.within b.habits.limit "get torrents" t with ⟨e | l', t'⟩
    · simp only [heldMedia, hheld, heldTorrents, hfound] at h
      exact nomatch (Prod.mk.inj h).1
    simp only [heldMedia, hheld, heldTorrents, hfound] at h
    obtain ⟨hpair, rfl⟩ := Prod.mk.inj h
    obtain ⟨rfl, rfl⟩ := Prod.mk.inj (Except.ok.inj hpair)
    exact ⟨t, m, folder, rfl, hm, hheld, hfound⟩
  · exact nomatch (Prod.mk.inj h).1

theorem refreshed_of_refresh {s s' : Inventory μ τ ρ} {items : List Item}
    (h : s.refresh b now = (.ok items, s')) : Refreshed b now s items s' := by
  obtain ⟨e, he, -⟩ | ⟨held, found, s₁, items', trackers, hgather, hitems, hresult, rfl⟩ :=
    refresh_cases h
  · exact nomatch he
  · obtain rfl := Except.ok.inj hresult
    obtain ⟨torrents, media, folder, htorrents, hmedia, hheld, hfound⟩ := gather_eq_ok hgather
    exact .intro htorrents hmedia hheld hfound hitems

end Inventory

end SeedCleanup

import SeedCleanup.Inventory.Request
import SeedCleanup.Proofs.DeletionProtocol
import SeedCleanup.Proofs.RefreshProtocol

/-!
# Requests in steps

A request that may publish items waits for its turn, and only who has the turn works with the
managers and publishes. Between two steps other requests may look at the items. A request that is
not disturbed does in steps what it does at once (`Asked.IsTurn`).
-/

namespace SeedCleanup

/-! ## Steps -/

/-- What is left to do for the request that has the turn. -/
inductive Turn (μ τ ρ : Type) : Type 1 where
  /-- Give the turn back. -/
  | leave (answer : Except InventoryError Answer)
  /-- Look at the items. -/
  | look (next : Option (List Item) → Turn μ τ ρ)
  /-- Work with a manager, which leaves the items alone. -/
  | work {β : Type} (act : Inventory μ τ ρ → β × Inventory μ τ ρ)
      (frame : ∀ s, (act s).2.items = s.items) (next : β → Turn μ τ ρ)
  /-- Publish items, after which only the turn has to be given back. -/
  | publish (items : List Item) (answer : Except InventoryError Answer)

/-- What is left to do for a request that has not had the turn. -/
inductive Visit (μ τ ρ : Type) : Type 1 where
  | answered (answer : Except InventoryError Answer)
  /-- Look at the items. -/
  | look (next : Option (List Item) → Visit μ τ ρ)
  /-- Wait for the turn. -/
  | wait (turn : Turn μ τ ρ)

/-- A request, and the time at which it is carried out. -/
structure Asked where
  request : Request
  now : Instant

variable {μ τ ρ : Type}

/-- Carry out the rest of a turn without a break: the answer, the inventory after it, and the items
that were published. -/
def Turn.alone : Turn μ τ ρ → Inventory μ τ ρ →
    Except InventoryError Answer × Inventory μ τ ρ × Option (List Item)
  | leave answer, s => (answer, s, none)
  | look next, s => (next s.items).alone s
  | work act _ next, s => (next (act s).1).alone (act s).2
  | publish items answer, s => (answer, { s with items := some items }, some items)

/-- Items change by being published only. -/
theorem Turn.items_alone (t : Turn μ τ ρ) (s : Inventory μ τ ρ) :
    (t.alone s).2.1.items = (t.alone s).2.2.or s.items := by
  induction t generalizing s with
  | leave answer => rfl
  | look next ih => exact ih _ s
  | work act frame next ih => rw [alone, ih, frame]
  | publish items answer => rfl

/-! ## Refreshing in steps -/

/-- A side of a refresh: a manager, and where an inventory keeps its copy. -/
structure Side (μ τ ρ σ β δ : Type) where
  manager : Manager σ β δ
  copy : Inventory μ τ ρ → σ
  update : Inventory μ τ ρ → σ → SnapshotFolder → Inventory μ τ ρ
  copy_update : ∀ s c f, copy (update s c f) = c
  folder_update : ∀ s c f, (update s c f).folder = f
  items_update : ∀ s c f, (update s c f).items = s.items
  update_self : ∀ s, update s (copy s) s.folder = s
  update_update : ∀ s c f c' f', update (update s c f) c' f' = update s c' f'

section

variable {σ β δ : Type} (h : Habits)

/-- Carry out a stage of renewing the copy of a side, with the text that was saved or read. -/
def Side.stage (side : Side μ τ ρ σ β δ) (stage : RenewalStage) (text : String)
    (s : Inventory μ τ ρ) : (Except InventoryError Unit × String) × Inventory μ τ ρ :=
  let (answer, r) := stage.run side.manager h ⟨side.copy s, s.folder, text⟩
  ((answer, r.text), side.update s r.copy r.folder)

/-- Renew the copy of a side stage by stage, up to the first that fails. -/
def Side.turn (side : Side μ τ ρ σ β δ) (next : Except InventoryError Unit → Turn μ τ ρ) :
    List RenewalStage → String → Turn μ τ ρ
  | [], _ => next (.ok ())
  | stage :: rest, text =>
    .work (side.stage h stage text) (fun _ => side.items_update _ _ _) fun
      | (.error e, _) => next (.error e)
      | (.ok (), text) => side.turn next rest text

theorem Side.alone_turn (side : Side μ τ ρ σ β δ) (s : Inventory μ τ ρ)
    {next : Except InventoryError Unit → Turn μ τ ρ} {stages : List RenewalStage} {text : String}
    {result : Except InventoryError Unit} {r : Renewing σ}
    (hrun : runStages side.manager h stages ⟨side.copy s, s.folder, text⟩ = (result, r)) :
    (side.turn h next stages text).alone s
      = (next result).alone (side.update s r.copy r.folder) := by
  induction stages generalizing text s with
  | nil =>
    cases hrun
    rw [side.update_self]
    rfl
  | cons stage rest ih =>
    rcases hstage : stage.run side.manager h ⟨side.copy s, s.folder, text⟩ with ⟨e | ⟨⟩, r₁⟩
    · simp only [runStages, hstage] at hrun
      cases hrun
      simp only [turn, Turn.alone, Side.stage, hstage]
    · simp only [runStages, hstage] at hrun
      have hrest : runStages side.manager h rest
          ⟨side.copy (side.update s r₁.copy r₁.folder),
            (side.update s r₁.copy r₁.folder).folder, r₁.text⟩ = (result, r) := by
        rw [side.copy_update, side.folder_update]
        exact hrun
      simp only [turn, Turn.alone, Side.stage, hstage]
      rw [ih _ hrest, side.update_update]

end

section

variable (b : Backends μ τ ρ) (now : Instant)

/-- The side of the media. -/
def Backends.mediaSide : Side μ τ ρ μ MediaEntry FileDeletion where
  manager := b.media
  copy s := s.media
  update s media folder := { s with media, folder }
  copy_update _ _ _ := rfl
  folder_update _ _ _ := rfl
  items_update _ _ _ := rfl
  update_self _ := rfl
  update_update _ _ _ _ _ := rfl

/-- The side of the torrents. -/
def Backends.torrentSide : Side μ τ ρ τ Torrent TorrentKey where
  manager := b.torrents
  copy s := s.torrents
  update s torrents folder := { s with torrents, folder }
  copy_update _ _ _ := rfl
  folder_update _ _ _ := rfl
  items_update _ _ _ := rfl
  update_self _ := rfl
  update_update _ _ _ _ _ := rfl

/-- Link and evaluate titles and torrents. -/
def Inventory.evaluated (media : List MediaEntry) (torrents : List Torrent) (s : Inventory μ τ ρ) :
    Except InventoryError (List Item) × Inventory μ τ ρ :=
  let (result, trackers) := Item.ofLinked b.trackers now (linkMedia media torrents) s.trackers
  (result, { s with trackers })

/-- Rebuild the items from what the managers hold. -/
def rebuildTurn (answer : Except InventoryError (List Item) → Except InventoryError Answer) :
    Turn μ τ ρ :=
  .work (Inventory.heldMedia b) (fun _ => rfl) fun
    | .error e => .leave (answer (.error e))
    | .ok media =>
      .work (Inventory.heldTorrents b) (fun _ => rfl) fun
        | .error e => .leave (answer (.error e))
        | .ok torrents =>
          .work (Inventory.evaluated b now media torrents) (fun _ => rfl) fun
            | .error e => .leave (answer (.error e))
            | .ok items => .publish items (answer (.ok items))

/-- Refresh, and answer according to what came of it. One side is renewed after the other, which any
other order of their stages would come to (`renew_of_schedule`). -/
def refreshTurn (answer : Except InventoryError (List Item) → Except InventoryError Answer) :
    Turn μ τ ρ :=
  b.torrentSide.turn b.habits (fun torrents =>
    b.mediaSide.turn b.habits (fun media =>
      match Inventory.failures b media torrents with
      | [] => rebuildTurn b now answer
      | failed => .leave (answer (.error (.refresh failed))))
      b.habits.mode.stages "")
    b.habits.mode.stages ""

variable {b now} {answer : Except InventoryError (List Item) → Except InventoryError Answer}

theorem alone_rebuildTurn (s : Inventory μ τ ρ) :
    (rebuildTurn b now answer).alone s
      = (answer (s.rebuild b now).1, (s.rebuild b now).2, (s.rebuild b now).1.toOption) := by
  rcases hmedia : s.heldMedia b with ⟨e | media, s₁⟩
  · simp only [rebuildTurn, Turn.alone, Inventory.rebuild, hmedia, Except.toOption]
  rcases htorrents : s₁.heldTorrents b with ⟨e | torrents, s₂⟩
  · simp only [rebuildTurn, Turn.alone, Inventory.rebuild, hmedia, htorrents, Except.toOption]
  simp only [rebuildTurn, Turn.alone, Inventory.rebuild, hmedia, htorrents, Inventory.evaluated,
    Inventory.publish]
  rcases Item.ofLinked b.trackers now (linkMedia media torrents) s₂.trackers with ⟨_ | _, _⟩ <;> rfl

/-- Refreshing in steps is refreshing. -/
theorem alone_refreshTurn (s : Inventory μ τ ρ) :
    (refreshTurn b now answer).alone s
      = (answer (s.refresh b now).1, (s.refresh b now).2, (s.refresh b now).1.toOption) := by
  let stages := b.habits.mode.stages
  rcases ht : runStages b.torrents b.habits stages ⟨s.torrents, s.folder, ""⟩ with ⟨torrents, t⟩
  let s₁ := b.torrentSide.update s t.copy t.folder
  have htorrents : s.renewTorrents b = (torrents, s₁) := by
    rw [Inventory.renewTorrents, Manager.renew_eq_runStages, ht]
    rfl
  rcases hm : runStages b.media b.habits stages ⟨s₁.media, s₁.folder, ""⟩ with ⟨media, m⟩
  have hmedia : s₁.renewMedia b = (media, b.mediaSide.update s₁ m.copy m.folder) := by
    rw [Inventory.renewMedia, Manager.renew_eq_runStages, hm]
    rfl
  have hsides : (refreshTurn b now answer).alone s
      = (b.mediaSide.turn b.habits _ stages "").alone s₁ := b.torrentSide.alone_turn b.habits s ht
  rw [hsides, b.mediaSide.alone_turn b.habits s₁ hm]
  simp only [Inventory.refresh, Inventory.finishRefresh, htorrents, hmedia]
  cases Inventory.failures b media torrents with
  | nil => exact alone_rebuildTurn _
  | cons first rest => rfl

/-- A refresh publishes what it answers, and nothing if it fails. -/
theorem items_refresh (b : Backends μ τ ρ) (now : Instant) (s : Inventory μ τ ρ) :
    (s.refresh b now).2.items = (s.refresh b now).1.toOption.or s.items := by
  obtain ⟨mediaCalls, torrentCalls, result, s', h⟩ := exists_refreshing b now s
  rw [h.refresh_eq]
  exact h.items_eq

end

/-! ## Deleting in steps -/

instance (c : DeletionCall) (answer : Except InventoryError Unit) :
    Decidable (c.Tolerates answer) :=
  match c, answer with
  | _, .ok () => isTrue trivial
  | .torrent key, .error (.source _ e) =>
    decidable_of_iff (e.isNotFound = true) ⟨fun h => ⟨⟨key, rfl⟩, h⟩, And.right⟩
  | .files _, .error (.source _ _) => isFalse fun h => nomatch h.1
  | _, .error (.malformedId _) => isFalse id
  | _, .error (.mediaNotFound _) => isFalse id
  | _, .error (.refresh _) => isFalse id
  | _, .error (.evaluation _ _) => isFalse id
  | _, .error (.timeout _) => isFalse id
  | _, .error (.cacheFile _ _) => isFalse id
  | _, .error (.internal _) => isFalse id

section

variable (b : Backends μ τ ρ)

/-- Make the calls of a plan one after the other, up to the first whose answer is not tolerated. -/
def callsTurn (title : String) (next : Except InventoryError Unit → Turn μ τ ρ) :
    List DeletionCall → Turn μ τ ρ
  | [] => next (.ok ())
  | c :: rest =>
    .work (c.make b title) (make_frame c) fun answer =>
      if c.Tolerates answer then callsTurn title next rest else next answer

/-- Delete what an id names. -/
def deletionTurn (text : String) (id : MediaId) : Turn μ τ ρ :=
  .look fun
    | none => .leave (.error (.mediaNotFound text))
    | some items =>
      match selection? id items with
      | none => .leave (.error (.mediaNotFound text))
      | some item =>
        callsTurn b item.linked.title.name (fun
          | .error e => .leave (.error e)
          | .ok () => .publish (withoutSelected id items) (.ok .done)) (deletionPlan id item)

variable {b}

theorem alone_callsTurn {title : String} {next : Except InventoryError Unit → Turn μ τ ρ}
    {plan made : List DeletionCall} {s s' : Inventory μ τ ρ} {result : Except InventoryError Unit}
    (h : Follows b title plan s made result s') :
    (callsTurn b title next plan).alone s = (next result).alone s' := by
  induction h with
  | finished s => rfl
  | next hmake hgo _ ih => simp only [callsTurn, Turn.alone, hmake, if_pos hgo, ih]
  | stopped hmake hstop => simp only [callsTurn, Turn.alone, hmake, if_neg hstop]

/-- Deleting in steps is deleting. -/
theorem alone_deletionTurn {text : String} {id : MediaId} (hid : MediaId.parse text = some id)
    (s : Inventory μ τ ρ) :
    (deletionTurn b text id).alone s
      = ((s.delete b text).1.map fun _ => .done, (s.delete b text).2,
          if (s.delete b text).1.isOk then (s.delete b text).2.items else none) := by
  cases hitems : s.items with
  | none =>
    have hnone : s.items.bind (selection? id) = none := by rw [hitems, Option.bind_none]
    rw [delete_of_none hid hnone]
    simp only [deletionTurn, Turn.alone, hitems]
    rfl
  | some items =>
    cases hselection : selection? id items with
    | none =>
      have hnone : s.items.bind (selection? id) = none := by
        rw [hitems, Option.bind_some, hselection]
      rw [delete_of_none hid hnone]
      simp only [deletionTurn, Turn.alone, hitems, hselection]
      rfl
    | some item =>
      obtain ⟨made, result, s', hcalls⟩ : ∃ made result s',
          Follows b item.linked.title.name (deletionPlan id item) s made result s' :=
        exists_follows _ s
      rw [delete_of_some hid hitems hselection, deleteSelected_of_follows hcalls]
      simp only [deletionTurn, Turn.alone, hitems, hselection, alone_callsTurn hcalls]
      cases result <;> rfl

end

/-! ## Requests in steps -/

/-- A request that answers from the items. -/
def Request.isRead : Request → Bool
  | .refresh => false
  | .delete _ => false
  | .list _ _ => true
  | .expand _ => true

section

variable (b : Backends μ τ ρ) (now : Instant)

/-- Refresh unless there are items, and answer from the items. -/
def populationTurn (view : List Item → Except InventoryError Answer) : Turn μ τ ρ :=
  .look fun
    | some items => .leave (view items)
    | none => refreshTurn b now fun result => result.bind view

/-- Answer from the items; only if there are none yet, wait for the turn. -/
def reading (view : List Item → Except InventoryError Answer) : Visit μ τ ρ :=
  .look fun
    | some items => .answered (view items)
    | none => .wait (populationTurn b now view)

/-- A request in steps. -/
def Asked.visit (asked : Asked) : Visit μ τ ρ :=
  match asked.request with
  | .refresh => .wait (refreshTurn b asked.now fun result => result.map fun _ => .done)
  | .delete text =>
    match MediaId.parse text with
    | none => .answered (.error (.malformedId text))
    | some id => .wait (deletionTurn b text id)
  | .list page sorting =>
    reading b asked.now fun items => .ok (.page (Page.of items sorting page asked.now))
  | .expand text =>
    match MediaId.parse text with
    | none => .answered (.error (.malformedId text))
    | some id =>
      reading b asked.now fun items => (Inventory.rowOf asked.now text id items).map .row

/-- The items that a request publishes if it is carried out at once: a read publishes items if it
finds none, and any other request if it succeeds. -/
def Inventory.newItems? (s : Inventory μ τ ρ) (asked : Asked) : Option (List Item) :=
  let (answer, s') := s.perform b asked.now asked.request
  if asked.request.isRead then if s.items.isNone then s'.items else none
  else if answer.isOk then s'.items else none

/-- A turn that does what a request does at once, if it is not disturbed. -/
def Asked.IsTurn (asked : Asked) (t : Turn μ τ ρ) : Prop :=
  ∀ s, t.alone s = ((s.perform b asked.now asked.request).1,
    (s.perform b asked.now asked.request).2, s.newItems? b asked)

variable {b now}

theorem isTurn_refresh : Asked.IsTurn b ⟨.refresh, now⟩
    (refreshTurn b now fun result => result.map fun _ => .done) := by
  intro s
  have hitems := items_refresh b now s
  rw [alone_refreshTurn]
  rcases hr : s.refresh b now with ⟨e | items, s'⟩
  · simp only [Inventory.perform, Inventory.newItems?, hr]
    rfl
  · rw [hr] at hitems
    simp only [Inventory.perform, Inventory.newItems?, hr]
    exact congrArg (fun x => (Except.ok Answer.done, s', x)) hitems.symm

theorem isTurn_delete {text : String} {id : MediaId} (hid : MediaId.parse text = some id) :
    Asked.IsTurn b ⟨.delete text, now⟩ (deletionTurn b text id) := by
  intro s
  rw [alone_deletionTurn hid]
  rcases hd : s.delete b text with ⟨_ | _, s'⟩
  · simp only [Inventory.perform, Inventory.newItems?, hd]
    rfl
  · simp only [Inventory.perform, Inventory.newItems?, hd]
    rfl

theorem alone_populationTurn (view : List Item → Except InventoryError Answer)
    (s : Inventory μ τ ρ) :
    (populationTurn b now view).alone s
      = ((s.populated b now).1.bind view, (s.populated b now).2,
          if s.items.isNone then (s.populated b now).2.items else none) := by
  cases hitems : s.items with
  | some items =>
    simp only [populationTurn, Turn.alone, Inventory.populated, hitems]
    rfl
  | none =>
    have hnew : (s.refresh b now).2.items = (s.refresh b now).1.toOption := by
      rw [items_refresh, hitems, Option.or_none]
    simp only [populationTurn, Turn.alone, Inventory.populated, hitems, alone_refreshTurn]
    rw [hnew]
    rfl

theorem isTurn_list {page : UInt64} {sorting : Sorting} : Asked.IsTurn b ⟨.list page sorting, now⟩
    (populationTurn b now fun items => .ok (.page (Page.of items sorting page now))) := by
  intro s
  rw [alone_populationTurn]
  rcases hp : s.populated b now with ⟨_ | _, s'⟩
  · simp only [Inventory.perform, Inventory.newItems?, Inventory.list, hp]
    rfl
  · simp only [Inventory.perform, Inventory.newItems?, Inventory.list, hp]
    rfl

theorem isTurn_expand {text : String} {id : MediaId} (hid : MediaId.parse text = some id) :
    Asked.IsTurn b ⟨.expand text, now⟩
      (populationTurn b now fun items => (Inventory.rowOf now text id items).map .row) := by
  intro s
  rw [alone_populationTurn]
  rcases hp : s.populated b now with ⟨_ | _, s'⟩
  · simp only [Inventory.perform, Inventory.newItems?, Inventory.expand, hid, hp]
    rfl
  · simp only [Inventory.perform, Inventory.newItems?, Inventory.expand, hid, hp]
    rfl

/-! ## What a request does before it has the turn -/

/-- The answer to a request with an id that cannot be read. -/
def Asked.Refused (asked : Asked) (answer : Except InventoryError Answer) : Prop :=
  ∃ text, (asked.request = .delete text ∨ asked.request = .expand text) ∧
    MediaId.parse text = none ∧ answer = .error (.malformedId text)

/-- The answer of a read from items. -/
inductive Asked.ReadsFrom : Asked → List Item → Except InventoryError Answer → Prop
  | list (page : UInt64) (sorting : Sorting) (now : Instant) (items : List Item) :
      ReadsFrom ⟨.list page sorting, now⟩ items (.ok (.page (Page.of items sorting page now)))
  | expand {text : String} {id : MediaId} (hid : MediaId.parse text = some id) (now : Instant)
      (items : List Item) :
      ReadsFrom ⟨.expand text, now⟩ items ((Inventory.rowOf now text id items).map .row)

variable (b)

/-- A request is refused, waits for the turn, or is a read, which waits if there are no items. -/
theorem visit_cases (asked : Asked) :
    (∃ answer, asked.visit b = .answered answer ∧ asked.Refused answer) ∨
    (∃ t, asked.visit b = .wait t ∧ asked.IsTurn b t ∧ asked.request.isRead = false) ∨
    (∃ view, asked.visit b = reading b asked.now view ∧
      (∀ items, asked.ReadsFrom items (view items)) ∧
      asked.IsTurn b (populationTurn b asked.now view)) := by
  obtain ⟨request, now⟩ := asked
  cases request with
  | refresh => exact .inr (.inl ⟨_, rfl, isTurn_refresh, rfl⟩)
  | delete text =>
    cases hid : MediaId.parse text with
    | none => exact .inl ⟨_, by simp only [Asked.visit, hid], text, .inl rfl, hid, rfl⟩
    | some id =>
      exact .inr (.inl ⟨_, by simp only [Asked.visit, hid], isTurn_delete hid, rfl⟩)
  | list page sorting =>
    exact .inr (.inr ⟨_, rfl, fun items => .list page sorting now items, isTurn_list⟩)
  | expand text =>
    cases hid : MediaId.parse text with
    | none => exact .inl ⟨_, by simp only [Asked.visit, hid], text, .inr rfl, hid, rfl⟩
    | some id =>
      exact .inr (.inr ⟨_, by simp only [Asked.visit, hid],
        fun items => .expand hid now items, isTurn_expand hid⟩)

theorem perform_of_refused {asked : Asked} {answer : Except InventoryError Answer}
    (h : asked.Refused answer) (s : Inventory μ τ ρ) :
    s.perform b asked.now asked.request = (answer, s) := by
  obtain ⟨request, now⟩ := asked
  obtain ⟨text, rfl | rfl, hid, rfl⟩ := h
  · simp only [Inventory.perform, Inventory.delete, hid]
    rfl
  · simp only [Inventory.perform, Inventory.expand, hid]
    rfl

/-- A request that is carried out at once changes the items by publishing new ones only. -/
theorem items_perform (asked : Asked) (s : Inventory μ τ ρ) :
    (s.perform b asked.now asked.request).2.items = (s.newItems? b asked).or s.items := by
  have hturn {t : Turn μ τ ρ} (h : asked.IsTurn b t) :
      (s.perform b asked.now asked.request).2.items = (s.newItems? b asked).or s.items := by
    have hitems := t.items_alone s
    rw [h s] at hitems
    exact hitems
  obtain ⟨answer, -, hrefused⟩ | ⟨t, -, h, -⟩ | ⟨view, -, -, h⟩ := visit_cases b asked
  · rw [Inventory.newItems?, perform_of_refused b hrefused]
    obtain ⟨text, -, -, rfl⟩ := hrefused
    have hfailed : (Except.error (.malformedId text) : Except InventoryError Answer).isOk
        = false := rfl
    cases hitems : s.items <;> simp [hfailed, hitems]
  · exact hturn h
  · exact hturn h

/-- A read that is carried out at once is refused, or it answers from items that are there or are
published by it, or it finds no items and cannot refresh. -/
theorem answer_of_read {asked : Asked} (hread : asked.request.isRead = true)
    (s : Inventory μ τ ρ) :
    asked.Refused (s.perform b asked.now asked.request).1 ∨
    (∃ items, (s.newItems? b asked).or s.items = some items ∧
      asked.ReadsFrom items (s.perform b asked.now asked.request).1) ∨
    (s.items = none ∧ ∃ e s', s.refresh b asked.now = (.error e, s') ∧
      (s.perform b asked.now asked.request).1 = .error e) := by
  obtain ⟨answer, -, hrefused⟩ | ⟨t, -, -, hwrite⟩ | ⟨view, -, hview, hturn⟩ :=
    visit_cases b asked
  · rw [perform_of_refused b hrefused]
    exact .inl hrefused
  · rw [hread] at hwrite
    cases hwrite
  · -- it is what its turn is alone, whose answer is known
    right
    have halone := (hturn s).symm.trans (alone_populationTurn view s)
    obtain ⟨hanswer, hrest⟩ := Prod.mk.inj halone
    have hnew := (Prod.mk.inj hrest).2
    rw [hanswer, hnew]
    cases hitems : s.items with
    | some items =>
      have hpopulated : s.populated b asked.now = (.ok items, s) := by
        simp only [Inventory.populated, hitems]
      rw [hpopulated]
      exact .inl ⟨items, rfl, hview items⟩
    | none =>
      have hpopulated : s.populated b asked.now = s.refresh b asked.now := by
        simp only [Inventory.populated, hitems]
      have hafter := items_refresh b asked.now s
      rw [hpopulated]
      rcases hr : s.refresh b asked.now with ⟨e | items, s'⟩
      · exact .inr ⟨rfl, e, s', rfl, rfl⟩
      · rw [hr] at hafter
        have hnewItems : s'.items = some items := hafter
        refine .inl ⟨items, ?_, hview items⟩
        rw [hnewItems]
        rfl

end

end SeedCleanup

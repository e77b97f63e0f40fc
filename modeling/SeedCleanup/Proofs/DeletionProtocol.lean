import SeedCleanup.Proofs.CallLog
import SeedCleanup.Proofs.DeletionTheorems
import SeedCleanup.Proofs.ItemTheorems

/-!
# The calls of a deletion

A deletion has a plan: delete each torrent of the selected files, then the files. The calls are made
in the order of the plan, up to the first whose failure the plan does not tolerate (`Follows`), and
only a plan that was followed to its end changes the items (`Deletion`). Then the selected files are
gone from their title, and the title with its last file (`Leaves`).
-/

namespace SeedCleanup

/-! ## Plans -/

/-- A call that a deletion makes to a manager. -/
inductive DeletionCall where
  | torrent (key : TorrentKey)
  | files (d : FileDeletion)

namespace DeletionCall

/-- What the log of the manager of torrents gets from a call. -/
def toTorrents : DeletionCall → List (ManagerCall TorrentKey)
  | torrent key => [.delete key]
  | files _ => []

/-- What the log of the manager of media gets from a call. -/
def toMedia : DeletionCall → List (ManagerCall FileDeletion)
  | torrent _ => []
  | files d => [.delete d]

/-- Whether a deletion goes on after an answer: the call succeeded, or it was about a torrent that
is gone already. -/
def Tolerates (c : DeletionCall) : Except InventoryError Unit → Prop
  | .ok () => True
  | .error (.source _ e) => (∃ key, c = .torrent key) ∧ e.isNotFound = true
  | .error _ => False

end DeletionCall

/-- The calls that a deletion makes if none fails. -/
def deletionPlan (id : MediaId) (item : Item) : List DeletionCall :=
  (torrentKeys (item.selected id)).map .torrent ++
    [.files ⟨item.linked.title.kind, (item.selected id).map (·.file.id), true⟩]

section

variable {μ τ ρ : Type} (b : Backends μ τ ρ) (title : String)

/-- Make a call and wait for the answer as long as the habits of the inventory allow. -/
def DeletionCall.make (c : DeletionCall) (s : Inventory μ τ ρ) :
    Except InventoryError Unit × Inventory μ τ ρ :=
  match c with
  | torrent key =>
    let stage := "delete torrent " ++ key.text ++ " of " ++ Text.quoted title
    let (answer, torrents) := (b.torrents.delete key).within b.habits.limit stage s.torrents
    (answer, { s with torrents })
  | files d =>
    let stage := "delete media files of " ++ Text.quoted title
    let (answer, media) := (b.media.delete d).within b.habits.limit stage s.media
    (answer, { s with media })

/-- The calls of a plan are made in order, up to the first whose answer is not tolerated. -/
inductive Follows : List DeletionCall → Inventory μ τ ρ → List DeletionCall →
    Except InventoryError Unit → Inventory μ τ ρ → Prop
  | finished (s : Inventory μ τ ρ) : Follows [] s [] (.ok ()) s
  | next {c : DeletionCall} {rest made : List DeletionCall} {s s₁ s₂ : Inventory μ τ ρ}
      {answer result : Except InventoryError Unit} (hmake : c.make b title s = (answer, s₁))
      (hgo : c.Tolerates answer) (h : Follows rest s₁ made result s₂) :
      Follows (c :: rest) s (c :: made) result s₂
  | stopped {c : DeletionCall} {rest : List DeletionCall} {s s₁ : Inventory μ τ ρ}
      {e : InventoryError} (hmake : c.make b title s = (.error e, s₁))
      (hstop : ¬c.Tolerates (.error e)) : Follows (c :: rest) s [c] (.error e) s₁

variable {b title}

/-! ## Following a plan -/

theorem make_frame (c : DeletionCall) (s : Inventory μ τ ρ) :
    (c.make b title s).2.items = s.items := by
  cases c <;> rfl

/-- A recorded call goes into the log of its manager. -/
theorem make_recorded (c : DeletionCall) (s : Inventory μ τ ρ)
    (media : List (ManagerCall FileDeletion)) (torrents : List (ManagerCall TorrentKey)) :
    c.make b.recorded title (s.logged media torrents)
      = ((c.make b title s).1,
          (c.make b title s).2.logged (media ++ c.toMedia) (torrents ++ c.toTorrents)) := by
  cases c with
  | torrent key =>
    have hcall : b.torrents.recorded.delete key
        = (b.torrents.delete key).recorded (.delete key) := rfl
    simp only [DeletionCall.make, DeletionCall.toMedia, DeletionCall.toTorrents, List.append_nil,
      Inventory.logged, Backends.recorded, hcall, within_recorded]
  | files d =>
    have hcall : b.media.recorded.delete d = (b.media.delete d).recorded (.delete d) := rfl
    simp only [DeletionCall.make, DeletionCall.toMedia, DeletionCall.toTorrents, List.append_nil,
      Inventory.logged, Backends.recorded, hcall, within_recorded]

namespace Follows

variable {plan made : List DeletionCall} {s s' : Inventory μ τ ρ}
  {result : Except InventoryError Unit}

theorem items_eq (h : Follows b title plan s made result s') : s'.items = s.items := by
  induction h with
  | finished s => rfl
  | @next c rest made s s₁ s₂ answer result hmake hgo h ih =>
    have hframe : (c.make b title s).2.items = s.items := make_frame c s
    rw [hmake] at hframe
    exact ih.trans hframe
  | @stopped c rest s s₁ e hmake hstop =>
    have hframe : (c.make b title s).2.items = s.items := make_frame c s
    rw [hmake] at hframe
    exact hframe

theorem isPrefix (h : Follows b title plan s made result s') : made <+: plan := by
  induction h with
  | finished s => exact List.prefix_rfl
  | next _ _ _ ih => exact (List.prefix_cons_inj _).2 ih
  | @stopped c rest s s₁ e hmake hstop => exact ⟨rest, rfl⟩

theorem eq_of_ok (h : Follows b title plan s made (.ok ()) s') : made = plan := by
  generalize hresult : (Except.ok () : Except InventoryError Unit) = result at h
  induction h with
  | finished s => rfl
  | next _ _ _ ih => rw [ih hresult]
  | stopped => cases hresult

/-- Recorded managers are called in the same way, and their logs show it. -/
theorem recorded (h : Follows b title plan s made result s')
    (media : List (ManagerCall FileDeletion)) (torrents : List (ManagerCall TorrentKey)) :
    Follows b.recorded title plan (s.logged media torrents) made result
      (s'.logged (media ++ made.flatMap (·.toMedia))
        (torrents ++ made.flatMap (·.toTorrents))) := by
  induction h generalizing media torrents with
  | finished s =>
    rw [List.flatMap_nil, List.flatMap_nil, List.append_nil, List.append_nil]
    exact .finished _
  | @next c rest made s s₁ s₂ answer result hmake hgo h ih =>
    have hrecorded : c.make b.recorded title (s.logged media torrents) = _ :=
      make_recorded c s media torrents
    rw [hmake] at hrecorded
    rw [List.flatMap_cons, List.flatMap_cons, ← List.append_assoc, ← List.append_assoc]
    exact .next hrecorded hgo (ih _ _)
  | @stopped c rest s s₁ e hmake hstop =>
    have hrecorded : c.make b.recorded title (s.logged media torrents) = _ :=
      make_recorded c s media torrents
    rw [hmake] at hrecorded
    rw [List.flatMap_singleton, List.flatMap_singleton]
    exact .stopped hrecorded hstop

end Follows

/-- Every plan can be followed, whatever the managers answer. -/
theorem exists_follows (plan : List DeletionCall) (s : Inventory μ τ ρ) :
    ∃ made result s', Follows b title plan s made result s' := by
  induction plan generalizing s with
  | nil => exact ⟨[], .ok (), s, .finished s⟩
  | cons c rest ih =>
    rcases hmake : c.make b title s with ⟨answer, s₁⟩
    by_cases hgo : c.Tolerates answer
    · obtain ⟨made, result, s', h⟩ := ih s₁
      exact ⟨c :: made, result, s', .next hmake hgo h⟩
    · cases answer with
      | ok => exact absurd trivial hgo
      | error e => exact ⟨[c], .error e, s₁, .stopped hmake hgo⟩

/-! ## Deleting is following the plan -/

section

variable {key : TorrentKey} {keys : List TorrentKey} {t t' : τ}

theorem deleteTorrents_of_tolerates {answer : Except InventoryError Unit}
    (h : (b.torrents.delete key).within b.habits.limit
      ("delete torrent " ++ key.text ++ " of " ++ Text.quoted title) t = (answer, t'))
    (hgo : (DeletionCall.torrent key).Tolerates answer) :
    Inventory.deleteTorrents b title (key :: keys) t
      = Inventory.deleteTorrents b title keys t' := by
  cases answer with
  | ok => simp only [Inventory.deleteTorrents, h]
  | error e =>
    cases e with
    | source stage e => simp only [Inventory.deleteTorrents, h, hgo.2, if_true]
    | _ => exact hgo.elim

theorem deleteTorrents_of_not_tolerates {e : InventoryError}
    (h : (b.torrents.delete key).within b.habits.limit
      ("delete torrent " ++ key.text ++ " of " ++ Text.quoted title) t = (.error e, t'))
    (hstop : ¬(DeletionCall.torrent key).Tolerates (.error e)) :
    Inventory.deleteTorrents b title (key :: keys) t = (.error e, t') := by
  cases e with
  | source stage e =>
    have hfound : ¬e.isNotFound = true := fun hgone => hstop ⟨⟨key, rfl⟩, hgone⟩
    simp only [Inventory.deleteTorrents, h, hfound, Bool.false_eq_true, if_false]
  | _ => simp only [Inventory.deleteTorrents, h]

end

/-- Deleting torrents is following the part of the plan that is about torrents. -/
theorem deleteTorrents_of_follows {keys : List TorrentKey} {rest made : List DeletionCall}
    {s s' : Inventory μ τ ρ} {result : Except InventoryError Unit}
    (h : Follows b title (keys.map .torrent ++ rest) s made result s') :
    (∃ e torrents, Inventory.deleteTorrents b title keys s.torrents = (.error e, torrents) ∧
      result = .error e ∧ s' = { s with torrents }) ∨
    ∃ torrents made', Inventory.deleteTorrents b title keys s.torrents = (.ok (), torrents) ∧
      Follows b title rest { s with torrents } made' result s' := by
  induction keys generalizing s made with
  | nil => exact .inr ⟨s.torrents, made, rfl, h⟩
  | cons key keys ih =>
    rcases hw : (b.torrents.delete key).within b.habits.limit
        ("delete torrent " ++ key.text ++ " of " ++ Text.quoted title) s.torrents with ⟨a, torrents⟩
    have hmade : (DeletionCall.torrent key).make b title s = (a, { s with torrents }) := by
      simp only [DeletionCall.make, hw]
    cases h with
    | next hmake hgo hrest =>
      obtain ⟨rfl, rfl⟩ := Prod.mk.inj (hmade.symm.trans hmake)
      rw [deleteTorrents_of_tolerates hw hgo]
      exact ih hrest
    | @stopped _ _ _ s₁ e hmake hstop =>
      obtain ⟨rfl, rfl⟩ := Prod.mk.inj (hmade.symm.trans hmake)
      exact .inl ⟨e, torrents, deleteTorrents_of_not_tolerates hw hstop, rfl, rfl⟩

/-- Deleting what an id names is following the plan, and then updating the items. -/
theorem deleteSelected_of_follows {id : MediaId} {item : Item} {items : List Item}
    {made : List DeletionCall} {s s' : Inventory μ τ ρ} {result : Except InventoryError Unit}
    (h : Follows b item.linked.title.name (deletionPlan id item) s made result s') :
    s.deleteSelected b id item items
      = (result, match result with
          | .ok () => { s' with items := some (withoutSelected id items) }
          | .error _ => s') := by
  let d : FileDeletion :=
    ⟨item.linked.title.kind, (item.selected id).map (·.file.id), true⟩
  unfold Inventory.deleteSelected
  rcases deleteTorrents_of_follows h with ⟨e, torrents, ht, rfl, rfl⟩ | ⟨torrents, made', ht, hlast⟩
  · simp only [ht]
  · rcases hw : (b.media.delete d).within b.habits.limit
        ("delete media files of " ++ Text.quoted item.linked.title.name) s.media with ⟨a, media⟩
    have hmade : (DeletionCall.files d).make b item.linked.title.name { s with torrents }
        = (a, { s with torrents, media }) := by
      simp only [DeletionCall.make, hw]
    have hfiles : Inventory.deleteFiles b item.linked.title
        ((item.selected id).map (·.file.id)) s.media = (a, media) := hw
    cases hlast with
    | @next _ _ _ _ s₁ _ answer _ hmake hgo hrest =>
      obtain ⟨rfl, rfl⟩ := Prod.mk.inj (hmade.symm.trans hmake)
      cases hrest
      -- of an answer about files only success is tolerated
      cases a with
      | ok => simp only [ht, hfiles]
      | error e =>
        cases e with
        | source stage e =>
          obtain ⟨⟨key, hkey⟩, -⟩ := hgo
          cases hkey
        | _ => exact hgo.elim
    | @stopped _ _ _ s₁ e hmake hstop =>
      obtain ⟨rfl, rfl⟩ := Prod.mk.inj (hmade.symm.trans hmake)
      simp only [ht, hfiles]

/-! ## What a deletion does -/

/-- A plan deletes each torrent of the files that an id names, in the order in which they appear
first, and then these files in one call, after which their title is no longer monitored. -/
def IsPlan (id : MediaId) (item : Item) (plan : List DeletionCall) : Prop :=
  ∃ keys, FirstAppearances keys ((item.selected id).filterMap fun f => f.torrent.map (·.key)) ∧
    plan = keys.map .torrent ++
      [.files ⟨item.linked.title.kind, (item.selected id).map (·.file.id), true⟩]

theorem isPlan_deletionPlan (id : MediaId) (item : Item) : IsPlan id item (deletionPlan id item) :=
  ⟨_, firstAppearances_eraseDups _, rfl⟩

/-- What is left of an item without the files that an id names: nothing if these are all its files.
Otherwise the other files stay as they were, each with the verdict on it, and whatever else the item
says follows from them. -/
inductive Leaves (id : MediaId) (item : Item) : List Item → Prop
  | nothing (h : ∀ f ∈ item.linked.files, id.selects f.file = true) : Leaves id item []
  | rest {left : Item} (h : ∃ f ∈ item.linked.files, id.selects f.file = false)
      (htitle : left.linked.title = item.linked.title)
      (hfiles : left.linked.files = item.linked.files.filter fun f => !id.selects f.file)
      (hverdicts : ∀ n v, left.report.files.get? n = some v ↔
        item.report.files.get? n = some v ∧ ∃ f ∈ left.linked.files, f.file.id = n)
      (hreport : left.report = .ofFiles left.linked left.report.files)
      (hsize : left.size.toNat = bytesOf left.linked.files % UInt64.size)
      (hadded : IsGreatest left.linked.addedTimes left.added) : Leaves id item [left]

theorem leaves_remainder? (id : MediaId) (item : Item) :
    Leaves id item (item.remainder? id).toList := by
  unfold Item.remainder?
  split
  · rename_i hall
    exact .nothing (List.all_eq_true.1 hall)
  · rename_i hall
    have hsome : ∃ f ∈ item.linked.files, id.selects f.file = false := by
      simpa using hall
    refine .rest hsome rfl rfl (fun n v => ?_) rfl ?_ (LinkedTitle.isGreatest_latestAdded _)
    · show ((item.report.files.filter _).get? n = some v) ↔ _
      rw [SortedTable.get?_filter, Option.filter_eq_some_iff, List.any_eq_true]
      simp only [beq_iff_eq]
      rfl
    · show (totalSize _).toNat = _
      rw [totalSize, toNat_foldl_size, UInt64.toNat_zero, Nat.zero_add]
      rfl

/-- The text is the id of files of a title, which stands in its place among the items. -/
structure Selects (text : String) (s : Inventory μ τ ρ) (id : MediaId) (before : List Item)
    (item : Item) (after : List Item) : Prop where
  parse_eq : MediaId.parse text = some id
  items_eq : s.items = some (before ++ item :: after)
  key_eq : item.linked.title.key = id.titleKey
  key_ne : ∀ x ∈ before, x.linked.title.key ≠ id.titleKey
  selected_ne_nil : item.selected id ≠ []

/-- What a deletion does: the calls that it makes, its answer and the inventory after it. -/
inductive Deletion (b : Backends μ τ ρ) (text : String) (s : Inventory μ τ ρ) :
    List DeletionCall → Except InventoryError Unit → Inventory μ τ ρ → Prop
  | malformed (h : MediaId.parse text = none) : Deletion b text s [] (.error (.malformedId text)) s
  | notFound {id : MediaId} (hid : MediaId.parse text = some id)
      (h : ∀ before item after, ¬Selects text s id before item after) :
      Deletion b text s [] (.error (.mediaNotFound text)) s
  | failed {id : MediaId} {before after : List Item} {item : Item} {plan made : List DeletionCall}
      {e : InventoryError} {s' : Inventory μ τ ρ} (h : Selects text s id before item after)
      (hplan : IsPlan id item plan) (hmade : made <+: plan)
      (hcalls : Follows b item.linked.title.name plan s made (.error e) s')
      (hitems : s'.items = s.items) : Deletion b text s made (.error e) s'
  | done {id : MediaId} {before left after : List Item} {item : Item} {plan : List DeletionCall}
      {s' : Inventory μ τ ρ} (h : Selects text s id before item after) (hplan : IsPlan id item plan)
      (hcalls : Follows b item.linked.title.name plan s plan (.ok ()) s')
      (hleft : Leaves id item left) :
      Deletion b text s plan (.ok ()) { s' with items := some (before ++ left ++ after) }

/-- What a text selects is what the deletion finds. -/
theorem exists_selects_iff {text : String} {s : Inventory μ τ ρ} {id : MediaId} {items : List Item}
    {item : Item} (hid : MediaId.parse text = some id) (hitems : s.items = some items) :
    (∃ before after, Selects text s id before item after) ↔ selection? id items = some item := by
  rw [selection?_eq_some_iff, IsFirst]
  constructor
  · rintro ⟨before, after, h⟩
    have heq : items = before ++ item :: after := Option.some.inj (hitems.symm.trans h.items_eq)
    exact ⟨⟨before, after, heq, h.key_eq, h.key_ne⟩, h.selected_ne_nil⟩
  · rintro ⟨⟨before, after, rfl, hkey, hbefore⟩, hselected⟩
    exact ⟨before, after, hid, hitems, hkey, hbefore, hselected⟩

theorem delete_of_none {text : String} {id : MediaId} {s : Inventory μ τ ρ}
    (hid : MediaId.parse text = some id) (h : s.items.bind (selection? id) = none) :
    s.delete b text = (.error (.mediaNotFound text), s) := by
  unfold Inventory.delete
  cases hitems : s.items with
  | none => simp only [hid]
  | some items =>
    rw [hitems, Option.bind_some] at h
    simp only [hid, h]

theorem delete_of_some {text : String} {id : MediaId} {s : Inventory μ τ ρ} {items : List Item}
    {item : Item} (hid : MediaId.parse text = some id) (hitems : s.items = some items)
    (h : selection? id items = some item) :
    s.delete b text = s.deleteSelected b id item items := by
  simp only [Inventory.delete, hid, hitems, h]

namespace Selects

variable {text : String} {id : MediaId} {before after : List Item} {item : Item}
  {s : Inventory μ τ ρ}

/-- What a text selects depends on the items only. -/
theorem of_items_eq {μ' τ' ρ' : Type} {s' : Inventory μ' τ' ρ'}
    (h : Selects text s id before item after) (hitems : s'.items = s.items) :
    Selects text s' id before item after :=
  ⟨h.parse_eq, hitems.trans h.items_eq, h.key_eq, h.key_ne, h.selected_ne_nil⟩

theorem delete_eq (h : Selects text s id before item after) :
    s.delete b text = s.deleteSelected b id item (before ++ item :: after) :=
  delete_of_some h.parse_eq h.items_eq ((exists_selects_iff h.parse_eq h.items_eq).1 ⟨_, _, h⟩)

end Selects

/-- A deletion is refused at once, or it selects files and follows its plan. -/
theorem delete_refused_or_follows (b : Backends μ τ ρ) (text : String) (s : Inventory μ τ ρ) :
    (∃ e, s.delete b text = (.error e, s)) ∨
    ∃ id before item after made result s', Selects text s id before item after ∧
      Follows b item.linked.title.name (deletionPlan id item) s made result s' ∧
      s.delete b text = (result, match result with
        | .ok () => { s' with items := some (before ++ (item.remainder? id).toList ++ after) }
        | .error _ => s') := by
  cases hid : MediaId.parse text with
  | none =>
    refine .inl ⟨.malformedId text, ?_⟩
    rw [Inventory.delete, hid]
  | some id =>
    cases hselection : s.items.bind (selection? id) with
    | none => exact .inl ⟨_, delete_of_none hid hselection⟩
    | some item =>
      obtain ⟨items, hitems, hitem⟩ := Option.bind_eq_some_iff.1 hselection
      obtain ⟨before, after, hselects⟩ := (exists_selects_iff hid hitems).2 hitem
      obtain ⟨made, result, s', hcalls⟩ : ∃ made result s',
          Follows b item.linked.title.name (deletionPlan id item) s made result s' :=
        exists_follows _ s
      obtain rfl : items = before ++ item :: after :=
        Option.some.inj (hitems.symm.trans hselects.items_eq)
      have hrest : withoutSelected id (before ++ item :: after)
          = before ++ (item.remainder? id).toList ++ after :=
        withoutSelected_append_cons hselects.key_eq hselects.key_ne
      refine .inr ⟨id, before, item, after, made, result, s', hselects, hcalls, ?_⟩
      rw [delete_of_some hid hitems hitem, deleteSelected_of_follows hcalls, hrest]
      cases result <;> rfl

/-- Every deletion is of this kind, and recorded managers note down exactly its calls. -/
theorem deletion_of_delete (b : Backends μ τ ρ) (text : String) (s : Inventory μ τ ρ) :
    ∃ made result s', s.delete b text = (result, s') ∧ Deletion b text s made result s' ∧
      ∀ media torrents, (s.logged media torrents).delete b.recorded text
        = (result, s'.logged (media ++ made.flatMap (·.toMedia))
            (torrents ++ made.flatMap (·.toTorrents))) := by
  cases hid : MediaId.parse text with
  | none =>
    refine ⟨[], _, s, ?_, .malformed hid, fun media torrents => ?_⟩
    · rw [Inventory.delete, hid]
    · rw [Inventory.delete, hid, List.flatMap_nil, List.flatMap_nil, List.append_nil,
        List.append_nil]
  | some id =>
    cases hselection : s.items.bind (selection? id) with
    | none =>
      refine ⟨[], _, s, delete_of_none hid hselection, .notFound hid fun before item after h => ?_,
        fun media torrents => ?_⟩
      · have hsome := (exists_selects_iff hid h.items_eq).1 ⟨before, after, h⟩
        rw [h.items_eq, Option.bind_some, hsome] at hselection
        cases hselection
      · have hlogged : (s.logged media torrents).items.bind (selection? id) = none := hselection
        rw [delete_of_none hid hlogged, List.flatMap_nil, List.flatMap_nil, List.append_nil,
          List.append_nil]
    | some item =>
      -- follow the plan; what comes of it decides how the deletion ends
      obtain ⟨items, hitems, hitem⟩ := Option.bind_eq_some_iff.1 hselection
      obtain ⟨before, after, hselects⟩ := (exists_selects_iff hid hitems).2 hitem
      obtain ⟨made, result, s', hcalls⟩ : ∃ made result s',
          Follows b item.linked.title.name (deletionPlan id item) s made result s' :=
        exists_follows _ s
      have hrecorded (media : List (ManagerCall FileDeletion))
          (torrents : List (ManagerCall TorrentKey)) :
          (s.logged media torrents).delete b.recorded text
            = (s.logged media torrents).deleteSelected b.recorded id item items :=
        delete_of_some hid hitems hitem
      cases result with
      | error e =>
        refine ⟨made, .error e, s', ?_, .failed hselects (isPlan_deletionPlan id item)
          hcalls.isPrefix hcalls hcalls.items_eq, fun media torrents => ?_⟩
        · rw [delete_of_some hid hitems hitem, deleteSelected_of_follows hcalls]
        · rw [hrecorded, deleteSelected_of_follows (hcalls.recorded media torrents)]
      | ok =>
        obtain rfl : made = deletionPlan id item := hcalls.eq_of_ok
        obtain rfl : items = before ++ item :: after :=
          Option.some.inj (hitems.symm.trans hselects.items_eq)
        have hrest : withoutSelected id (before ++ item :: after)
            = before ++ (item.remainder? id).toList ++ after :=
          withoutSelected_append_cons hselects.key_eq hselects.key_ne
        refine ⟨_, .ok (), _, ?_, .done hselects (isPlan_deletionPlan id item) hcalls
          (leaves_remainder? id item), fun media torrents => ?_⟩
        · rw [delete_of_some hid hitems hitem, deleteSelected_of_follows hcalls, hrest]
        · rw [hrecorded, deleteSelected_of_follows (hcalls.recorded media torrents), hrest]
          rfl

end

end SeedCleanup

import SeedCleanup.Proofs.DeletionOrder
import SeedCleanup.Proofs.LinkedTorrents

/-!
# Retrying a failed deletion

A deletion that fails leaves the items alone, but the torrents that it deleted are gone. When it is
tried again, the manager says of these that they are not found, and the deletion goes on with the
others. Each attempt takes some of the torrents that are left (`Takes`), and the one that succeeds
takes the last of them. So each was deleted once, and the files once in the end
(`Inventory.deletion_after_failed_attempts`).
-/

namespace SeedCleanup

/-! ## Managers with a state around that of another -/

section

variable {S σ α β δ : Type} (get : S → σ) (set : S → σ → S)

/-- Run an operation on a part of a state. -/
def runOn (run : σ → Except SourceError α × σ) (s : S) : Except SourceError α × S :=
  let (answer, t) := run (get s)
  (answer, set s t)

/-- A call that works on a part of a state. -/
def Call.on (c : Call σ α) : Call S α where
  millis s := c.millis (get s)
  run := runOn get set c.run
  abandon s := set s (c.abandon (get s))

/-- A manager that works on a part of a state, with deletions of its own. -/
def Manager.on (m : Manager σ β δ) (delete : δ → Call S Unit) : Manager S β δ where
  identity := m.identity
  refresh := m.refresh.on get set
  save := runOn get set m.save
  load data := runOn get set (m.load data)
  contents := m.contents.on get set
  delete := delete

end

/-! ## Deletions that succeeded -/

/-- The state of a manager with the deletions that succeeded, the first one first. -/
structure Tally (σ δ : Type) where
  state : σ
  deleted : List δ := []

section

variable {σ β δ : Type}

/-- What a deletion leaves behind: it is noted down if it succeeded. -/
def Tally.after (s : Tally σ δ) (d : δ) (succeeded : Bool) (state : σ) : Tally σ δ :=
  ⟨state, if succeeded then s.deleted ++ [d] else s.deleted⟩

/-- A deletion that is noted down if it succeeds. -/
def Call.tallied (d : δ) (c : Call σ Unit) : Call (Tally σ δ) Unit where
  millis s := c.millis s.state
  run s :=
    let (answer, state) := c.run s.state
    (answer, s.after d answer.isOk state)
  abandon s := s.after d false (c.abandon s.state)

/-- A manager that notes down the deletions that succeed. -/
def Manager.tallied (m : Manager σ β δ) : Manager (Tally σ δ) β δ :=
  m.on (·.state) (fun s state => { s with state }) fun d => (m.delete d).tallied d

theorem within_tallied (d : δ) (c : Call σ Unit) (limit : Option Nat) (stage : String)
    (s : Tally σ δ) :
    (c.tallied d).within limit stage s
      = ((c.within limit stage s.state).1, s.after d (c.within limit stage s.state).1.isOk
          (c.within limit stage s.state).2) :=
  Call.within_on (s.after d) rfl rfl rfl limit stage

end

section

variable {μ τ ρ : Type}

/-- Backends whose managers note down the deletions that succeed. -/
def Backends.tallied (b : Backends μ τ ρ) :
    Backends (Tally μ FileDeletion) (Tally τ TorrentKey) ρ :=
  ⟨b.media.tallied, b.torrents.tallied, b.trackers, b.habits⟩

/-! ## Managers that keep account of their torrents -/

/-- A manager that holds torrents deletes a torrent only if it holds it, and says of a torrent that
it is not found only if it does not hold it. A deletion that fails changes nothing about what it
holds. As long as nothing disturbs it, no deletion fails in another way. -/
structure KeepsAccount (m : TorrentManager τ) (Holds : τ → Set TorrentKey → Prop)
    (Calm : τ → Prop) : Prop where
  of_ok : ∀ {t t' held key limit stage}, Holds t held →
    (m.delete key).within limit stage t = (.ok (), t') → key ∈ held ∧ Holds t' (held \ {key})
  of_error : ∀ {t t' held key limit stage e}, Holds t held →
    (m.delete key).within limit stage t = (.error e, t') → Holds t' held
  of_notFound : ∀ {t t' held key limit stage stage' e}, Holds t held →
    (m.delete key).within limit stage t = (.error (.source stage' e), t') → e.isNotFound = true →
      key ∉ held
  of_calm : ∀ {t t' held key limit stage answer}, Holds t held → Calm t →
    (m.delete key).within limit stage t = (answer, t') →
      Calm t' ∧ (DeletionCall.torrent key).Tolerates answer

/-- From some torrents that are held others are left: those of a list were deleted, each once, and
all of them are among some keys. -/
structure Takes (Holds : τ → Set TorrentKey → Prop) (keys : List TorrentKey)
    (t : Tally τ TorrentKey) (held : Set TorrentKey) (t' : Tally τ TorrentKey)
    (left : Set TorrentKey) (log : List TorrentKey) : Prop where
  holds : Holds t'.state left
  deleted_eq : t'.deleted = t.deleted ++ log
  nodup : log.Nodup
  mem : ∀ key ∈ log, key ∈ keys ∧ key ∈ held
  left_iff : ∀ key, key ∈ left ↔ key ∈ held ∧ key ∉ log

namespace Takes

variable {Holds : τ → Set TorrentKey → Prop} {keys keys' : List TorrentKey}
  {t t₁ t' : Tally τ TorrentKey} {held left₁ left : Set TorrentKey} {log log' : List TorrentKey}

theorem nothing (holds : Holds t'.state held) (hdeleted : t'.deleted = t.deleted) :
    Takes Holds keys t held t' held [] where
  holds := holds
  deleted_eq := by rw [hdeleted, List.append_nil]
  nodup := .nil
  mem := by simp
  left_iff := by simp

theorem mono (h : Takes Holds keys t held t' left log) (hsub : ∀ key ∈ keys, key ∈ keys') :
    Takes Holds keys' t held t' left log where
  holds := h.holds
  deleted_eq := h.deleted_eq
  nodup := h.nodup
  mem key hkey := ⟨hsub key (h.mem key hkey).1, (h.mem key hkey).2⟩
  left_iff := h.left_iff

/-- What was taken first is not left, so it is not taken again. -/
theorem trans (h : Takes Holds keys t held t₁ left₁ log)
    (h' : Takes Holds keys t₁ left₁ t' left log') :
    Takes Holds keys t held t' left (log ++ log') where
  holds := h'.holds
  deleted_eq := by rw [h'.deleted_eq, h.deleted_eq, List.append_assoc]
  nodup := by
    refine List.nodup_append'.2 ⟨h.nodup, h'.nodup, fun key hkey hkey' => ?_⟩
    obtain ⟨-, hleft⟩ := h'.mem key hkey'
    exact ((h.left_iff key).1 hleft).2 hkey
  mem key hkey := by
    obtain hkey | hkey := List.mem_append.1 hkey
    · exact h.mem key hkey
    · obtain ⟨hmem, hleft⟩ := h'.mem key hkey
      exact ⟨hmem, ((h.left_iff key).1 hleft).1⟩
  left_iff key := by
    rw [h'.left_iff, h.left_iff, List.mem_append, not_or, and_assoc]

/-- If none of the keys is left, then those that were held have been taken. -/
theorem mem_iff (h : Takes Holds keys t held t' left log) (hnone : ∀ key ∈ keys, key ∉ left)
    (key : TorrentKey) : key ∈ log ↔ key ∈ held ∧ key ∈ keys := by
  constructor
  · intro hkey
    exact (h.mem key hkey).symm
  · rintro ⟨hheld, hkey⟩
    by_contra hnot
    exact hnone key hkey ((h.left_iff key).2 ⟨hheld, hnot⟩)

end Takes

/-! ## Deleting the torrents of a title -/

variable {b : Backends μ τ ρ} {Holds : τ → Set TorrentKey → Prop} {Calm : τ → Prop}
  {t t' : Tally τ TorrentKey} {held : Set TorrentKey}

/-- A call takes its torrent or nothing. If the deletion goes on, the torrent is not left. -/
theorem takes_of_call {key : TorrentKey} {limit : Option Nat} {stage : String}
    {answer : Except InventoryError Unit} (hm : KeepsAccount b.torrents Holds Calm)
    (hheld : Holds t.state held)
    (hcall : (b.tallied.torrents.delete key).within limit stage t = (answer, t')) :
    ∃ left log, Takes Holds [key] t held t' left log ∧
      ((DeletionCall.torrent key).Tolerates answer → key ∉ left) := by
  have htallied : (b.tallied.torrents.delete key).within limit stage t = _ :=
    within_tallied key (b.torrents.delete key) limit stage t
  rw [hcall] at htallied
  rcases hw : (b.torrents.delete key).within limit stage t.state with ⟨e | ⟨⟩, state⟩
  · rw [hw] at htallied
    obtain ⟨rfl, rfl⟩ := Prod.mk.inj htallied
    refine ⟨held, [], .nothing (hm.of_error hheld hw) rfl, fun hgo => ?_⟩
    cases e with
    | source stage' e => exact hm.of_notFound hheld hw hgo.2
    | _ => exact hgo.elim
  · rw [hw] at htallied
    obtain ⟨rfl, rfl⟩ := Prod.mk.inj htallied
    obtain ⟨hkey, hleft⟩ := hm.of_ok hheld hw
    refine ⟨held \ {key}, [key], ⟨hleft, rfl, List.nodup_singleton key, ?_, ?_⟩, ?_⟩
    · intro k hk
      obtain rfl := List.mem_singleton.1 hk
      exact ⟨hk, hkey⟩
    · simp
    · simp

theorem takes_of_deleteTorrents (hm : KeepsAccount b.torrents Holds Calm) {title : String}
    {keys : List TorrentKey} {result : Except InventoryError Unit} (hheld : Holds t.state held)
    (h : Inventory.deleteTorrents b.tallied title keys t = (result, t')) :
    ∃ left log, Takes Holds keys t held t' left log ∧
      (result = .ok () → ∀ key ∈ keys, key ∉ left) := by
  induction keys generalizing t held with
  | nil =>
    obtain ⟨rfl, rfl⟩ := Prod.mk.inj h
    exact ⟨held, [], .nothing hheld rfl, fun _ => by simp⟩
  | cons key rest ih =>
    rcases hcall : (b.tallied.torrents.delete key).within b.tallied.habits.limit
        ("delete torrent " ++ key.text ++ " of " ++ Text.quoted title) t with ⟨answer, t₁⟩
    -- the rest of the torrents are deleted from what the first call leaves
    obtain ⟨left₁, log, htakes, hgone⟩ := takes_of_call hm hheld hcall
    have hhead : Takes Holds (key :: rest) t held t₁ left₁ log := htakes.mono (by simp)
    by_cases hgo : (DeletionCall.torrent key).Tolerates answer
    · rw [deleteTorrents_of_tolerates hcall hgo] at h
      obtain ⟨left, log', hrest, hnone⟩ := ih htakes.holds h
      refine ⟨left, log ++ log', hhead.trans (hrest.mono fun k => List.mem_cons_of_mem key), ?_⟩
      intro hok
      refine List.forall_mem_cons.2 ⟨fun hleft => ?_, hnone hok⟩
      exact hgone hgo ((hrest.left_iff key).1 hleft).1
    · cases answer with
      | ok => exact absurd trivial hgo
      | error e =>
        rw [deleteTorrents_of_not_tolerates hcall hgo] at h
        obtain ⟨rfl, rfl⟩ := Prod.mk.inj h
        exact ⟨left₁, log, hhead, fun hok => nomatch hok⟩

/-- If nothing disturbs the manager, the torrents of a title are deleted without failure. -/
theorem exists_deleteTorrents_of_calm (hm : KeepsAccount b.torrents Holds Calm) {title : String}
    {keys : List TorrentKey} (hheld : Holds t.state held) (hcalm : Calm t.state) :
    ∃ t', Inventory.deleteTorrents b.tallied title keys t = (.ok (), t') := by
  induction keys generalizing t held with
  | nil => exact ⟨t, rfl⟩
  | cons key rest ih =>
    rcases hcall : (b.tallied.torrents.delete key).within b.tallied.habits.limit
        ("delete torrent " ++ key.text ++ " of " ++ Text.quoted title) t with ⟨answer, t₁⟩
    have htallied := within_tallied key (b.torrents.delete key) b.habits.limit
      ("delete torrent " ++ key.text ++ " of " ++ Text.quoted title) t
    obtain ⟨left, log, htakes, -⟩ := takes_of_call hm hheld hcall
    have hafter : Calm t₁.state ∧ (DeletionCall.torrent key).Tolerates answer := by
      rcases hw : (b.torrents.delete key).within b.habits.limit
        ("delete torrent " ++ key.text ++ " of " ++ Text.quoted title) t.state with ⟨e | ⟨⟩, state⟩
      · rw [hw] at htallied
        obtain ⟨rfl, rfl⟩ := Prod.mk.inj (hcall.symm.trans htallied)
        exact hm.of_calm hheld hcalm hw
      · rw [hw] at htallied
        obtain ⟨rfl, rfl⟩ := Prod.mk.inj (hcall.symm.trans htallied)
        exact hm.of_calm hheld hcalm hw
    rw [deleteTorrents_of_tolerates hcall hafter.2]
    exact ih htakes.holds hafter.1

/-! ## Attempts to delete what an id names -/

variable (b Holds) in
/-- Attempts to delete what a text names, all of which failed. In between the managers may change by
themselves, but not in what torrents they hold. -/
inductive FailedAttempts (text : String)
    (s : Inventory (Tally μ FileDeletion) (Tally τ TorrentKey) ρ) :
    Inventory (Tally μ FileDeletion) (Tally τ TorrentKey) ρ → Prop
  | start : FailedAttempts text s s
  | failed {s₁ s₂ : Inventory (Tally μ FileDeletion) (Tally τ TorrentKey) ρ} {e : InventoryError}
      (h : FailedAttempts text s s₁) (hdelete : s₁.delete b.tallied text = (.error e, s₂)) :
      FailedAttempts text s s₂
  | meanwhile {s₁ : Inventory (Tally μ FileDeletion) (Tally τ TorrentKey) ρ} {media : μ}
      {torrents : τ} (h : FailedAttempts text s s₁)
      (hholds : ∀ held, Holds s₁.torrents.state held → Holds torrents held) :
      FailedAttempts text s { s₁ with media := { s₁.media with state := media },
                                      torrents := { s₁.torrents with state := torrents } }

variable {s s₁ s' : Inventory (Tally μ FileDeletion) (Tally τ TorrentKey) ρ} {text : String}
  {id : MediaId} {before after : List Item} {item : Item}

/-- The call that deletes the files of an item that an id names. -/
def Item.filesCall (item : Item) (id : MediaId) : FileDeletion :=
  ⟨item.linked.title.kind, (item.selected id).map (·.file.id), true⟩

/-- An attempt takes some of the torrents that are left. If it fails, it publishes nothing and
deletes no files; otherwise it takes the last torrents and deletes the files in one call. -/
theorem takes_of_attempt (hm : KeepsAccount b.torrents Holds Calm)
    (hselects : Selects text s id before item after) (hheld : Holds s.torrents.state held)
    {result : Except InventoryError Unit} (h : s.delete b.tallied text = (result, s')) :
    ∃ left log, Takes Holds (torrentKeys (item.selected id)) s.torrents held s'.torrents left log ∧
      ((∃ e, result = .error e) ∧ s'.items = s.items ∧ s'.media.deleted = s.media.deleted ∨
        result = .ok () ∧ s'.items = some (withoutSelected id (before ++ item :: after)) ∧
          s'.media.deleted = s.media.deleted ++ [item.filesCall id] ∧
          ∀ key ∈ torrentKeys (item.selected id), key ∉ left) := by
  rw [hselects.delete_eq, Inventory.deleteSelected] at h
  rcases ht : Inventory.deleteTorrents b.tallied item.linked.title.name
    (torrentKeys (item.selected id)) s.torrents with ⟨e | ⟨⟩, t⟩
  · obtain ⟨left, log, htakes, -⟩ := takes_of_deleteTorrents hm hheld ht
    simp only [ht] at h
    obtain ⟨rfl, rfl⟩ := Prod.mk.inj h
    exact ⟨left, log, htakes, .inl ⟨⟨e, rfl⟩, rfl, rfl⟩⟩
  · obtain ⟨left, log, htakes, hnone⟩ := takes_of_deleteTorrents hm hheld ht
    have hfiles : Inventory.deleteFiles b.tallied item.linked.title
        ((item.selected id).map (·.file.id)) s.media = _ :=
      within_tallied (item.filesCall id) (b.media.delete (item.filesCall id)) b.habits.limit
        ("delete media files of " ++ Text.quoted item.linked.title.name) s.media
    rcases hw : (b.media.delete (item.filesCall id)).within b.habits.limit
      ("delete media files of " ++ Text.quoted item.linked.title.name) s.media.state
      with ⟨e | ⟨⟩, media⟩
    · rw [hw] at hfiles
      simp only [ht, hfiles] at h
      obtain ⟨rfl, rfl⟩ := Prod.mk.inj h
      exact ⟨left, log, htakes, .inl ⟨⟨e, rfl⟩, rfl, rfl⟩⟩
    · rw [hw] at hfiles
      simp only [ht, hfiles] at h
      obtain ⟨rfl, rfl⟩ := Prod.mk.inj h
      exact ⟨left, log, htakes, .inr ⟨rfl, rfl, rfl, hnone rfl⟩⟩

/-- Failed attempts take some of the torrents, and leave the items and the files alone. -/
theorem FailedAttempts.takes (hattempts : FailedAttempts b Holds text s s₁)
    (hm : KeepsAccount b.torrents Holds Calm) (hselects : Selects text s id before item after)
    (hheld : Holds s.torrents.state held) :
    ∃ left log, Takes Holds (torrentKeys (item.selected id)) s.torrents held s₁.torrents left log ∧
      s₁.items = s.items ∧ s₁.media.deleted = s.media.deleted := by
  induction hattempts with
  | start => exact ⟨held, [], .nothing hheld rfl, rfl, rfl⟩
  | failed _ hdelete ih =>
    obtain ⟨left₁, log, htakes, hitems, hmedia⟩ := ih
    obtain ⟨left, log', htakes', ⟨-, hitems', hmedia'⟩ | ⟨hok, -⟩⟩ :=
      takes_of_attempt hm (hselects.of_items_eq hitems) htakes.holds hdelete
    · exact ⟨left, log ++ log', htakes.trans htakes', hitems'.trans hitems, hmedia'.trans hmedia⟩
    · cases hok
  | meanwhile _ hholds ih =>
    obtain ⟨left, log, htakes, hitems, hmedia⟩ := ih
    exact ⟨left, log, { htakes with holds := hholds _ htakes.holds }, hitems, hmedia⟩

namespace Inventory

/-- After any number of failed attempts, an attempt that nothing disturbs succeeds. Once one does,
the items are those that a single deletion publishes if no call fails, each torrent of the selected
files that was held at the start was deleted exactly once and no other one was deleted, and the files
were deleted by one call. -/
theorem deletion_after_failed_attempts (hm : KeepsAccount b.torrents Holds Calm)
    (hselects : Selects text s id before item after) (hheld : Holds s.torrents.state held)
    (hattempts : FailedAttempts b Holds text s s₁) :
    (Calm s₁.torrents.state →
      (∃ media, (b.media.delete (item.filesCall id)).within b.habits.limit
        ("delete media files of " ++ Text.quoted item.linked.title.name) s₁.media.state
          = (.ok (), media)) →
      (s₁.delete b.tallied text).1 = .ok ()) ∧
    ∀ s', s₁.delete b.tallied text = (.ok (), s') →
      (∀ {μ' τ' ρ' : Type} (b' : Backends μ' τ' ρ') (alone : Inventory μ' τ' ρ'),
        alone.items = s.items → alone.Unhindered b' text →
        (alone.delete b' text).1 = .ok () ∧ (alone.delete b' text).2.items = s'.items) ∧
      (∃ log, s'.torrents.deleted = s.torrents.deleted ++ log ∧ log.Nodup ∧
        ∀ key, key ∈ log
          ↔ key ∈ held ∧ ∃ f ∈ item.selected id, ∃ t, f.torrent = some t ∧ t.key = key) ∧
      s'.media.deleted = s.media.deleted
        ++ [⟨item.linked.title.kind, (item.selected id).map (·.file.id), true⟩] := by
  obtain ⟨left₁, log, htakes, hitems, hmedia⟩ := hattempts.takes hm hselects hheld
  -- the items are those of the start, so the text still selects the same files
  have hselects₁ := hselects.of_items_eq hitems
  constructor
  · rintro hcalm ⟨media, hfiles⟩
    obtain ⟨t, ht⟩ : ∃ t, deleteTorrents b.tallied item.linked.title.name
        (torrentKeys (item.selected id)) s₁.torrents = (.ok (), t) :=
      exists_deleteTorrents_of_calm hm htakes.holds hcalm
    have hdeleted : deleteFiles b.tallied item.linked.title
        ((item.selected id).map (·.file.id)) s₁.media = _ :=
      within_tallied (item.filesCall id) (b.media.delete (item.filesCall id)) b.habits.limit
        ("delete media files of " ++ Text.quoted item.linked.title.name) s₁.media
    rw [hfiles] at hdeleted
    rw [hselects₁.delete_eq]
    simp only [deleteSelected, ht, hdeleted]
  · intro s' hdelete
    obtain ⟨left, log', htakes', ⟨⟨e, he⟩, -⟩ | ⟨-, hitems', hmedia', hnone⟩⟩ :=
      takes_of_attempt hm hselects₁ htakes.holds hdelete
    · cases he
    · refine ⟨fun b' alone halone hunhindered => ?_, ⟨log ++ log', ?_⟩, ?_⟩
      · have hselects' := hselects.of_items_eq halone
        obtain ⟨final, hcalls⟩ := hunhindered id before item after hselects'
        rw [hselects'.delete_eq, deleteSelected_of_follows hcalls, hitems']
        exact ⟨rfl, rfl⟩
      · have hall := htakes.trans htakes'
        refine ⟨hall.deleted_eq, hall.nodup, fun key => ?_⟩
        rw [hall.mem_iff hnone, mem_torrentKeys]
      · rw [hmedia', hmedia]
        rfl

end Inventory

end

/-! ## The stand-in client -/

namespace StandInClient

/-- What a stand-in client holds. The error that is due, if any, does not say that a torrent is not
found. -/
def Holds (s : StandInClient) (held : Set TorrentKey) : Prop :=
  (∀ key, key ∈ held ↔ ∃ t ∈ s.entries, t.key = key) ∧
    ∀ e, s.nextError = some e → e.isNotFound = false

/-- What a stand-in client does when it is told to delete a torrent. -/
inductive Deletes (s : StandInClient) (key : TorrentKey) (stage : String) :
    Except InventoryError Unit → StandInClient → Prop
  | disturbed {e : SourceError} (h : s.nextError = some e) :
      Deletes s key stage (.error (.source stage e)) { s with nextError := none }
  | deleted (hcalm : s.nextError = none) (h : ∃ t ∈ s.entries, t.key = key) :
      Deletes s key stage (.ok ()) { s with entries := s.entries.filter (·.key != key),
                                            deleted := s.deleted ++ [key] }
  | missing (hcalm : s.nextError = none) (h : ¬∃ t ∈ s.entries, t.key = key) :
      Deletes s key stage (.error (.source stage (.notFound key.text))) s

theorem deletes_of_within {s s' : StandInClient} {key : TorrentKey} {limit : Option Nat}
    {stage : String} {answer : Except InventoryError Unit}
    (h : (manager.delete key).within limit stage s = (answer, s')) :
    s.Deletes key stage answer s' := by
  have hrun : manager.delete key = .immediate (StandIn.delete rules key) := rfl
  have hmem : s.entries.any (·.key == key) = true ↔ ∃ t ∈ s.entries, t.key = key := by simp
  rw [hrun, Call.within_immediate] at h
  cases herror : s.nextError with
  | some e =>
    simp only [StandIn.delete, StandIn.takeError, herror] at h
    obtain ⟨rfl, rfl⟩ := Prod.mk.inj h
    exact .disturbed herror
  | none =>
    have htaken : s.takeError = (.ok (), s) := takeError_of_quiet herror
    by_cases hfound : s.entries.any (·.key == key) = true
    · simp only [StandIn.delete, htaken, rules, without, hfound, if_true] at h
      obtain ⟨rfl, rfl⟩ := Prod.mk.inj h
      exact .deleted herror (hmem.1 hfound)
    · simp only [StandIn.delete, htaken, rules, without, hfound, Bool.false_eq_true,
        if_false] at h
      obtain ⟨rfl, rfl⟩ := Prod.mk.inj h
      exact .missing herror (fun hmissing => hfound (hmem.2 hmissing))

theorem keepsAccount : KeepsAccount manager Holds (·.nextError = none) where
  of_ok {s s' held key limit stage} hheld h := by
    obtain ⟨hentries, herror⟩ := hheld
    cases deletes_of_within h with
    | deleted hcalm hfound =>
      refine ⟨(hentries key).2 hfound, fun k => ?_, herror⟩
      rw [Set.mem_sdiff, Set.mem_singleton_iff, hentries]
      simp only [List.mem_filter, bne_iff_ne]
      constructor
      · rintro ⟨⟨t, ht, rfl⟩, hne⟩
        exact ⟨t, ⟨ht, hne⟩, rfl⟩
      · rintro ⟨t, ⟨ht, hne⟩, rfl⟩
        exact ⟨⟨t, ht, rfl⟩, hne⟩
  of_error {s s' held key limit stage e} hheld h := by
    cases deletes_of_within h with
    | disturbed herror => exact ⟨hheld.1, fun e he => nomatch he⟩
    | missing hcalm hmissing => exact hheld
  of_notFound {s s' held key limit stage stage' e} hheld h hnotFound := by
    cases deletes_of_within h with
    | disturbed herror =>
      rw [hheld.2 e herror] at hnotFound
      cases hnotFound
    | missing hcalm hmissing => exact fun hkey => hmissing ((hheld.1 key).1 hkey)
  of_calm {s s' held key limit stage answer} hheld hcalm h := by
    cases deletes_of_within h with
    | disturbed herror =>
      rw [hcalm] at herror
      cases herror
    | deleted => exact ⟨hcalm, trivial⟩
    | missing => exact ⟨hcalm, ⟨key, rfl⟩, rfl⟩

end StandInClient

/-! ## Managers that are disturbed -/

/-- The state of a manager with the errors that its next deletions meet, the next one first. -/
structure Disturbed (σ : Type) where
  state : σ
  faults : List (Option SourceError) := []

namespace Disturbed

variable {σ : Type}

/-- The error that the next deletion meets, if any. -/
def due (s : Disturbed σ) : Option SourceError := s.faults.head?.join

/-- What is left for the deletions after the next one. -/
def past (s : Disturbed σ) (state : σ) : Disturbed σ := ⟨state, s.faults.tail⟩

/-- What a disturbed manager holds. No error that it meets says that a torrent is not found. -/
def Holds (Holds : σ → Set TorrentKey → Prop) (s : Disturbed σ) (held : Set TorrentKey) : Prop :=
  Holds s.state held ∧ ∀ e, some e ∈ s.faults → e.isNotFound = false

def Calm (Calm : σ → Prop) (s : Disturbed σ) : Prop :=
  Calm s.state ∧ ∀ fault ∈ s.faults, fault = none

end Disturbed

section

variable {σ τ β δ : Type}

/-- A deletion that meets the error that is due, or goes to the manager if there is none. -/
def Call.disturbed (c : Call σ Unit) : Call (Disturbed σ) Unit where
  millis s := if s.due.isSome then 0 else c.millis s.state
  run s :=
    match s.due with
    | some e => (.error e, s.past s.state)
    | none =>
      let (answer, state) := c.run s.state
      (answer, s.past state)
  abandon s := s.past (c.abandon s.state)

/-- A manager whose deletions are disturbed. -/
def Manager.disturbed (m : Manager σ β δ) : Manager (Disturbed σ) β δ :=
  m.on (·.state) (fun s state => { s with state }) fun d => (m.delete d).disturbed

theorem within_disturbed_of_due {c : Call σ Unit} {limit : Option Nat} {stage : String}
    {s : Disturbed σ} {e : SourceError} (h : s.due = some e) :
    c.disturbed.within limit stage s = (.error (.source stage e), s.past s.state) := by
  have hmillis : c.disturbed.millis s = 0 := by simp [Call.disturbed, h]
  have hrun : c.disturbed.run s = (.error e, s.past s.state) := by simp only [Call.disturbed, h]
  rw [Call.within_of_millis_eq_zero hmillis, hrun]
  rfl

theorem within_disturbed_of_none {c : Call σ Unit} {limit : Option Nat} {stage : String}
    {s : Disturbed σ} (h : s.due = none) :
    c.disturbed.within limit stage s
      = ((c.within limit stage s.state).1, s.past (c.within limit stage s.state).2) := by
  have hmillis : c.disturbed.millis s = c.millis s.state := by simp [Call.disturbed, h]
  have hrun : c.disturbed.run s = ((c.run s.state).1, s.past (c.run s.state).2) := by
    simp only [Call.disturbed, h]
  exact Call.within_on (fun _ => s.past) hmillis hrun rfl limit stage

/-- A deletion meets the error that is due, or it is answered by the manager. -/
theorem cases_of_within_disturbed {c : Call σ Unit} {limit : Option Nat} {stage : String}
    {s s' : Disturbed σ} {answer : Except InventoryError Unit}
    (h : c.disturbed.within limit stage s = (answer, s')) :
    (∃ e, s.due = some e ∧ answer = .error (.source stage e) ∧ s' = s.past s.state) ∨
    ∃ state, s.due = none ∧ c.within limit stage s.state = (answer, state) ∧ s' = s.past state := by
  cases hdue : s.due with
  | some e =>
    rw [within_disturbed_of_due hdue] at h
    obtain ⟨rfl, rfl⟩ := Prod.mk.inj h
    exact .inl ⟨e, rfl, rfl, rfl⟩
  | none =>
    rw [within_disturbed_of_none hdue] at h
    obtain ⟨rfl, rfl⟩ := Prod.mk.inj h
    exact .inr ⟨_, rfl, rfl, rfl⟩

/-- A manager that keeps account of its torrents still does when it is disturbed by errors other than
that a torrent is not found. -/
theorem KeepsAccount.disturbed {m : TorrentManager τ} {Holds : τ → Set TorrentKey → Prop}
    {Calm : τ → Prop} (hm : KeepsAccount m Holds Calm) :
    KeepsAccount m.disturbed (Disturbed.Holds Holds) (Disturbed.Calm Calm) := by
  -- the error that is due is one of the faults, and the later ones are among them
  have hdue {s : Disturbed τ} {e : SourceError} (h : s.due = some e) : some e ∈ s.faults := by
    rw [Disturbed.due, Option.join_eq_some_iff] at h
    exact List.mem_of_mem_head? h
  have hpast {s : Disturbed τ} {state : τ} {fault : Option SourceError}
      (h : fault ∈ (s.past state).faults) : fault ∈ s.faults := List.mem_of_mem_tail h
  constructor
  case of_ok =>
    rintro s s' held key limit stage ⟨hheld, hfaults⟩ h
    obtain ⟨e, -, hanswer, -⟩ | ⟨state, -, hw, rfl⟩ := cases_of_within_disturbed h
    · cases hanswer
    · obtain ⟨hkey, hleft⟩ := hm.of_ok hheld hw
      exact ⟨hkey, hleft, fun e he => hfaults e (hpast he)⟩
  case of_error =>
    rintro s s' held key limit stage e ⟨hheld, hfaults⟩ h
    obtain ⟨e, -, -, rfl⟩ | ⟨state, -, hw, rfl⟩ := cases_of_within_disturbed h
    · exact ⟨hheld, fun e he => hfaults e (hpast he)⟩
    · exact ⟨hm.of_error hheld hw, fun e he => hfaults e (hpast he)⟩
  case of_notFound =>
    rintro s s' held key limit stage stage' e ⟨hheld, hfaults⟩ h hnotFound
    obtain ⟨e, he, hanswer, -⟩ | ⟨state, -, hw, -⟩ := cases_of_within_disturbed h
    · cases hanswer
      rw [hfaults e (hdue he)] at hnotFound
      cases hnotFound
    · exact hm.of_notFound hheld hw hnotFound
  case of_calm =>
    rintro s s' held key limit stage answer ⟨hheld, -⟩ ⟨hcalm, hnone⟩ h
    obtain ⟨e, he, -, -⟩ | ⟨state, -, hw, rfl⟩ := cases_of_within_disturbed h
    · cases hnone _ (hdue he)
    · obtain ⟨hstate, hgo⟩ := hm.of_calm hheld hcalm hw
      exact ⟨⟨hstate, fun fault hfault => hnone fault (hpast hfault)⟩, hgo⟩

end

/-! ## A movie from two torrents -/

namespace Sample

def otherTorrent : Torrent := ⟨"qbit", "b", "beta.mkv", .ofNat 1, ⟨0, 0⟩, ["tracker.org"], []⟩

def twoTorrents : Item :=
  rules.item ⟨0, 0⟩ ⟨movie.title, [⟨seeded, some torrent⟩, ⟨unlinked, some otherTorrent⟩]⟩

def disturbedBackends : Backends (Disturbed StandInLibrary) (Disturbed StandInClient) Trackers :=
  ⟨StandInLibrary.manager.disturbed, StandInClient.manager.disturbed, Trackers.resolver,
    ⟨.live false, none, ""⟩⟩

/-- The second torrent and the files can be deleted at the second time only. -/
def disturbedInventory : Inventory (Tally (Disturbed StandInLibrary) FileDeletion)
    (Tally (Disturbed StandInClient) TorrentKey) Trackers where
  media := ⟨⟨{ entries := [movie] }, [some (.api "busy")]⟩, []⟩
  torrents := ⟨⟨{ entries := [torrent, otherTorrent] }, [none, some .timeout]⟩, []⟩
  trackers := .rules rules
  items := some [twoTorrents]

/-- The sample inventory after so many attempts to delete its movie. -/
def attempted : Nat → Inventory (Tally (Disturbed StandInLibrary) FileDeletion)
    (Tally (Disturbed StandInClient) TorrentKey) Trackers
  | 0 => disturbedInventory
  | n + 1 => ((attempted n).delete disturbedBackends.tallied "movie-1").2

end Sample

open Sample in
theorem third_attempt_completes :
    (∃ e, (attempted 0).delete disturbedBackends.tallied "movie-1" = (.error e, attempted 1)) ∧
    (∃ e, (attempted 1).delete disturbedBackends.tallied "movie-1" = (.error e, attempted 2)) ∧
    (attempted 2).delete disturbedBackends.tallied "movie-1" = (.ok (), attempted 3) ∧
    (attempted 3).items = some [] ∧
    (attempted 3).torrents.deleted.Nodup ∧
    (∀ key, key ∈ (attempted 3).torrents.deleted ↔ key = torrent.key ∨ key = otherTorrent.key) ∧
    (attempted 3).media.deleted = [⟨.movie, [10, 11], true⟩] := by
  have hselects : Selects "movie-1" (attempted 0) ⟨.movie, 1, .all⟩ [] twoTorrents [] :=
    ⟨rfl, rfl, rfl, by simp, List.cons_ne_nil _ _⟩
  have hheld : Disturbed.Holds StandInClient.Holds (attempted 0).torrents.state
      {torrent.key, otherTorrent.key} := by
    refine ⟨⟨fun key => ?_, fun e he => nomatch he⟩, fun e he => ?_⟩
    · show key ∈ _ ↔ ∃ t ∈ [torrent, otherTorrent], t.key = key
      simp [eq_comm]
    · have hfault : some e ∈ [none, some SourceError.timeout] := he
      obtain rfl : e = .timeout := by simpa using hfault
      rfl
  have hfirst : (attempted 0).delete disturbedBackends.tallied "movie-1"
      = (.error _, attempted 1) := rfl
  have hsecond : (attempted 1).delete disturbedBackends.tallied "movie-1"
      = (.error _, attempted 2) := rfl
  have hattempts : FailedAttempts disturbedBackends (Disturbed.Holds StandInClient.Holds) "movie-1"
      (attempted 0) (attempted 2) := (FailedAttempts.start.failed hfirst).failed hsecond
  obtain ⟨hcompletes, hafter⟩ := Inventory.deletion_after_failed_attempts
    StandInClient.keepsAccount.disturbed hselects hheld hattempts
  have hok : ((attempted 2).delete disturbedBackends.tallied "movie-1").1 = .ok () :=
    hcompletes ⟨rfl, fun fault hfault => nomatch hfault⟩ ⟨_, rfl⟩
  have hthird : (attempted 2).delete disturbedBackends.tallied "movie-1"
      = (.ok (), attempted 3) := Prod.ext hok rfl
  obtain ⟨-, ⟨log, hlog, hnodup, hmem⟩, hfiles⟩ := hafter _ hthird
  have hdeleted : (attempted 3).torrents.deleted = log := hlog
  refine ⟨⟨_, hfirst⟩, ⟨_, hsecond⟩, hthird, rfl, ?_, fun key => ?_, hfiles⟩
  · rw [hdeleted]
    exact hnodup
  · have hkeys : torrentKeys (twoTorrents.selected ⟨.movie, 1, .all⟩)
        = [torrent.key, otherTorrent.key] := rfl
    rw [hdeleted, hmem, ← mem_torrentKeys, hkeys]
    simp

end SeedCleanup

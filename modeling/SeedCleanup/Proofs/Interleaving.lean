import Mathlib.Data.List.Infix
import SeedCleanup.Proofs.RetentionSafety
import SeedCleanup.Proofs.Turns

/-!
# Requests at the same time

Any number of requests are carried out in steps, which a schedule mixes as it likes (`System.run`).
What they publish is what they publish one after the other in the order of their turns (`serial`),
and every read answers from items that were published before (`System.Serializable`).

Managers may answer anything: their states may hold the answers to all calls to come.
-/

namespace SeedCleanup

/-! ## One after the other -/

/-- What was published so far, and by which request. -/
structure Ledger (μ τ ρ : Type) where
  published : List (Asked × List Item)
  inventory : Inventory μ τ ρ

section

variable {μ τ ρ : Type} (b : Backends μ τ ρ) (start : Inventory μ τ ρ)

/-- Carry out a request at once. -/
def Ledger.perform (l : Ledger μ τ ρ) (asked : Asked) : Ledger μ τ ρ :=
  ⟨l.published ++ (l.inventory.newItems? b asked).toList.map (asked, ·),
    (l.inventory.perform b asked.now asked.request).2⟩

/-- Carry out requests one after the other. -/
def serial (requests : List Asked) : Ledger μ τ ρ :=
  requests.foldl (Ledger.perform b) ⟨[], start⟩

theorem serial_concat (requests : List Asked) (asked : Asked) :
    serial b start (requests ++ [asked]) = (serial b start requests).perform b asked :=
  List.foldl_concat ..

end

/-! ## At the same time -/

/-- Requests that are carried out at the same time. -/
structure System (μ τ ρ : Type) : Type 1 where
  inventory : Inventory μ τ ρ
  /-- The requests that have not had the turn. -/
  visits : List (Asked × Visit μ τ ρ) := []
  /-- The request that has the turn. -/
  holder : Option (Asked × Turn μ τ ρ) := none
  answered : List (Asked × Except InventoryError Answer) := []
  /-- The requests that got the turn, the first one first. -/
  turns : List Asked := []
  /-- What was published, and by which request. -/
  published : List (Asked × List Item) := []

/-- What may happen next. -/
inductive Move where
  | arrive (asked : Asked)
  /-- A request without the turn goes on. -/
  | visit (i : Nat)
  /-- The request that has the turn goes on. -/
  | turn

namespace System

variable {μ τ ρ : Type} (b : Backends μ τ ρ)

/-- A request without the turn looks at the items, is answered, or gets the turn if it is free. -/
def visit (i : Nat) (S : System μ τ ρ) : System μ τ ρ :=
  match S.visits[i]? with
  | none => S
  | some (asked, .answered answer) =>
    { S with visits := S.visits.eraseIdx i, answered := S.answered ++ [(asked, answer)] }
  | some (asked, .look next) =>
    { S with visits := S.visits.set i (asked, next S.inventory.items) }
  | some (asked, .wait t) =>
    match S.holder with
    | some _ => S
    | none =>
      { S with
        visits := S.visits.eraseIdx i, holder := some (asked, t), turns := S.turns ++ [asked] }

/-- The request that has the turn takes one step. -/
def turn (S : System μ τ ρ) : System μ τ ρ :=
  match S.holder with
  | none => S
  | some (asked, .leave answer) =>
    { S with holder := none, answered := S.answered ++ [(asked, answer)] }
  | some (asked, .look next) => { S with holder := some (asked, next S.inventory.items) }
  | some (asked, .work act _ next) =>
    { S with
      inventory := (act S.inventory).2, holder := some (asked, next (act S.inventory).1) }
  | some (asked, .publish items answer) =>
    { S with
      inventory := { S.inventory with items := some items }
      holder := some (asked, .leave answer)
      published := S.published ++ [(asked, items)] }

/-- One move. A move that is not possible changes nothing. -/
def step (S : System μ τ ρ) : Move → System μ τ ρ
  | .arrive asked => { S with visits := S.visits ++ [(asked, asked.visit b)] }
  | .visit i => S.visit i
  | .turn => S.turn

/-- All moves of a schedule. -/
def run (S : System μ τ ρ) (schedule : List Move) : System μ τ ρ := schedule.foldl (step b) S

end System

/-! ## What a schedule keeps -/

/-- A turn that changes nothing if there are items. -/
def Turn.OnlyLooks {μ τ ρ : Type} : Turn μ τ ρ → Prop
  | .leave _ => True
  | .look next => ∀ items, ∃ answer, next (some items) = .leave answer
  | .work .. => False
  | .publish .. => False

section

variable {μ τ ρ : Type} (b : Backends μ τ ρ) (start : Inventory μ τ ρ)

/-- Where the answer to a request comes from, when some requests got the turn and some items were
published. -/
inductive Explained (turns : List Asked) (published : List (Asked × List Item)) (asked : Asked)
    (answer : Except InventoryError Answer) : Prop
  | refused (h : asked.Refused answer)
  | read {items : List Item} (hitems : items ∈ published.map (·.2))
      (h : asked.ReadsFrom items answer)
  | unpopulated {before after : List Asked} {e : InventoryError} {s' : Inventory μ τ ρ}
      (hread : asked.request.isRead = true) (hturns : turns = before ++ asked :: after)
      (hitems : (serial b start before).inventory.items = none)
      (hrefresh : (serial b start before).inventory.refresh b asked.now = (.error e, s'))
      (hanswer : answer = .error e)
  | served {before after : List Asked} (hwrite : asked.request.isRead = false)
      (hturns : turns = before ++ asked :: after)
      (hanswer : answer
        = ((serial b start before).inventory.perform b asked.now asked.request).1)

/-- What a request without the turn may have left to do. -/
def Visit.Sound (turns : List Asked) (published : List (Asked × List Item)) (asked : Asked) :
    Visit μ τ ρ → Prop
  | .answered answer => Explained b start turns published asked answer
  | .look next =>
    (∀ items, ∃ answer, next (some items) = .answered answer ∧ asked.ReadsFrom items answer) ∧
    ∃ t, next none = .wait t ∧ asked.IsTurn b t ∧ t.OnlyLooks
  | .wait t => asked.IsTurn b t ∧ (asked.request.isRead = true → t.OnlyLooks)

/-- The request that has the turn is on its way from what the requests before it left to what it
leaves if it is carried out at once. -/
structure Underway (turns : List Asked) (published : List (Asked × List Item))
    (s : Inventory μ τ ρ) (asked : Asked) (t : Turn μ τ ρ) (before : List Asked) : Prop where
  turns_eq : turns = before ++ [asked]
  isPrefix : (serial b start before).published <+: published
  answer_eq : (t.alone s).1
    = ((serial b start before).inventory.perform b asked.now asked.request).1
  inventory_eq : (t.alone s).2.1 = (serial b start turns).inventory
  published_eq : published ++ (t.alone s).2.2.toList.map (asked, ·)
    = (serial b start turns).published
  onlyLooks : asked.request.isRead = true → published = [] ∨ t.OnlyLooks

/-- What all moves keep. -/
structure System.Valid (S : System μ τ ρ) : Prop where
  visits : ∀ v ∈ S.visits, v.2.Sound b start S.turns S.published v.1
  idle : S.holder = none → S.published = (serial b start S.turns).published ∧
    S.inventory = (serial b start S.turns).inventory
  underway : ∀ asked t, S.holder = some (asked, t) →
    ∃ before, Underway b start S.turns S.published S.inventory asked t before
  answered : ∀ a ∈ S.answered, Explained b start S.turns S.published a.1 a.2
  items_eq : S.inventory.items = S.published.getLast?.map (·.2)
  later : ∀ p ∈ S.published.tail, p.1.request.isRead = false

variable {b start} {turns turns' : List Asked} {published published' : List (Asked × List Item)}
  {asked : Asked}

theorem Explained.mono {answer : Except InventoryError Answer}
    (h : Explained b start turns published asked answer) (hturns : turns <+: turns')
    (hpublished : published <+: published') : Explained b start turns' published' asked answer := by
  obtain ⟨rest, rfl⟩ := hturns
  cases h with
  | refused h => exact .refused h
  | read hitems h => exact .read ((hpublished.map _).subset hitems) h
  | unpopulated hread hturns hitems hrefresh hanswer =>
    rw [hturns, List.append_assoc, List.cons_append]
    exact .unpopulated hread rfl hitems hrefresh hanswer
  | served hwrite hturns hanswer =>
    rw [hturns, List.append_assoc, List.cons_append]
    exact .served hwrite rfl hanswer

theorem Visit.Sound.mono {v : Visit μ τ ρ} (h : v.Sound b start turns published asked)
    (hturns : turns <+: turns') (hpublished : published <+: published') :
    v.Sound b start turns' published' asked := by
  cases v with
  | answered answer => exact Explained.mono h hturns hpublished
  | look next => exact h
  | wait t => exact h

/-- A request that has done nothing yet. -/
theorem sound_visit (asked : Asked) : (asked.visit b).Sound b start turns published asked := by
  obtain ⟨answer, heq, hrefused⟩ | ⟨t, heq, hturn, hwrite⟩ | ⟨view, heq, hview, hturn⟩ :=
    visit_cases b asked
  · rw [heq]
    exact .refused hrefused
  · rw [heq]
    refine ⟨hturn, fun hread => ?_⟩
    rw [hwrite] at hread
    cases hread
  · rw [heq]
    exact ⟨fun items => ⟨_, rfl, hview items⟩, _, rfl, hturn, fun items => ⟨_, rfl⟩⟩

/-- Requests one after the other: the items are those that were published last. -/
theorem items_serial (hstart : start.items = none) (requests : List Asked) :
    (serial b start requests).inventory.items
      = (serial b start requests).published.getLast?.map (·.2) := by
  induction requests using List.reverseRecOn with
  | nil => exact hstart
  | append_singleton requests asked ih =>
    rw [serial_concat, Ledger.perform, items_perform, ih]
    cases Inventory.newItems? b (serial b start requests).inventory asked with
    | none => rw [Option.none_or, Option.toList_none, List.map_nil, List.append_nil]
    | some items =>
      rw [Option.some_or, Option.toList_some, List.map_singleton, List.getLast?_concat]
      rfl

theorem mem_tail_concat {α : Type} {l : List α} {x y : α} (h : x ∈ (l ++ [y]).tail) :
    x ∈ l.tail ∨ x = y := by
  cases l with
  | nil => cases h
  | cons z rest => simpa using h

theorem mem_of_getLast?_map {items : List Item}
    (h : some items = published.getLast?.map (·.2)) : items ∈ published.map (·.2) := by
  obtain ⟨p, hp, rfl⟩ := Option.map_eq_some_iff.1 h.symm
  exact List.mem_map_of_mem (List.mem_of_getLast? hp)

/-- A request that gives the turn back answers what it answers if it is carried out at once. -/
theorem explained_of_leave {s : Inventory μ τ ρ} {before : List Asked}
    {answer : Except InventoryError Answer}
    (h : Underway b start turns published s asked (.leave answer) before)
    (hitems : (serial b start before).inventory.items
      = (serial b start before).published.getLast?.map (·.2)) :
    Explained b start turns published asked answer := by
  have hanswer : answer
      = ((serial b start before).inventory.perform b asked.now asked.request).1 := h.answer_eq
  cases hread : asked.request.isRead with
  | false => exact .served hread h.turns_eq hanswer
  | true =>
    obtain hrefused | ⟨items, hnew, hreads⟩ | ⟨hnone, e, s', hrefresh, herror⟩ :=
      answer_of_read b hread (serial b start before).inventory
    · exact .refused (hanswer ▸ hrefused)
    · rw [← hanswer] at hreads
      refine .read ?_ hreads
      cases hpublished : (serial b start before).inventory.newItems? b asked with
      | none =>
        rw [hpublished, Option.none_or, hitems] at hnew
        exact (h.isPrefix.map _).subset (mem_of_getLast?_map hnew.symm)
      | some new =>
        rw [hpublished, Option.some_or, Option.some.injEq] at hnew
        have hserial : published = (serial b start before).published ++ [(asked, items)] := by
          have hafter : published ++ [] = (serial b start turns).published := h.published_eq
          rw [List.append_nil, h.turns_eq, serial_concat] at hafter
          rw [hafter, Ledger.perform, hpublished, hnew]
          rfl
        rw [hserial]
        simp
    · exact .unpopulated hread h.turns_eq hnone hrefresh (hanswer.trans herror)

/-! ### The way of a turn -/

/-- A request that gets the turn has all of it before it. -/
theorem underway_of_isTurn {s : Inventory μ τ ρ} {t : Turn μ τ ρ} (hturn : asked.IsTurn b t)
    (hlooks : asked.request.isRead = true → t.OnlyLooks)
    (hpublished : published = (serial b start turns).published)
    (hinventory : s = (serial b start turns).inventory) :
    Underway b start (turns ++ [asked]) published s asked t turns := by
  have halone := hturn s
  refine ⟨rfl, hpublished ▸ List.prefix_rfl, ?_, ?_, ?_, fun hread => .inr (hlooks hread)⟩
  · rw [halone, hinventory]
  · rw [halone, serial_concat, hinventory]
    rfl
  · rw [halone, serial_concat, hpublished, hinventory]
    rfl

namespace Underway

variable {s : Inventory μ τ ρ} {before : List Asked}

/-- A look at the items finds none only if nothing was published. -/
theorem look {next : Option (List Item) → Turn μ τ ρ}
    (h : Underway b start turns published s asked (.look next) before)
    (hitems : s.items = published.getLast?.map (·.2)) :
    Underway b start turns published s asked (next s.items) before := by
  refine { h with onlyLooks := fun hread => ?_ }
  obtain hnone | hlooks := h.onlyLooks hread
  · exact .inl hnone
  cases hlast : s.items with
  | none =>
    rw [hlast] at hitems
    exact .inl (List.getLast?_eq_none_iff.1 (Option.map_eq_none_iff.1 hitems.symm))
  | some items =>
    obtain ⟨answer, hnext⟩ := hlooks items
    rw [hnext]
    exact .inr trivial

/-- A read that works with a manager has found nothing published. -/
theorem work {β : Type} {act : Inventory μ τ ρ → β × Inventory μ τ ρ}
    {frame : ∀ s, (act s).2.items = s.items} {next : β → Turn μ τ ρ}
    (h : Underway b start turns published s asked (.work act frame next) before) :
    Underway b start turns published (act s).2 asked (next (act s).1) before :=
  { h with onlyLooks := fun hread => .inl ((h.onlyLooks hread).resolve_right id) }

section

variable {items : List Item} {answer : Except InventoryError Answer}
  (h : Underway b start turns published s asked (.publish items answer) before)
include h

/-- What is published with the turn is what is published alone. -/
theorem publish : Underway b start turns (published ++ [(asked, items)])
    { s with items := some items } asked (.leave answer) before where
  turns_eq := h.turns_eq
  isPrefix := h.isPrefix.trans (List.prefix_append _ _)
  answer_eq := h.answer_eq
  inventory_eq := h.inventory_eq
  published_eq := (List.append_nil _).trans h.published_eq
  onlyLooks _ := .inr trivial

/-- A read publishes only if nothing was published before. -/
theorem later_of_publish (hlater : ∀ p ∈ published.tail, p.1.request.isRead = false) :
    ∀ p ∈ (published ++ [(asked, items)]).tail, p.1.request.isRead = false := by
  intro p hp
  cases hread : asked.request.isRead with
  | true =>
    have hnone : published = [] := (h.onlyLooks hread).resolve_right id
    simp [hnone] at hp
  | false =>
    obtain hp | rfl := mem_tail_concat hp
    · exact hlater p hp
    · exact hread

end

end Underway

/-! ### One move -/

namespace System.Valid

variable {S : System μ τ ρ} (h : S.Valid b start)
include h

theorem answer {i : Nat} {answer : Except InventoryError Answer}
    (hi : S.visits[i]? = some (asked, .answered answer)) :
    System.Valid b start
      { S with visits := S.visits.eraseIdx i, answered := S.answered ++ [(asked, answer)] } := by
  have hsound := h.visits _ (List.mem_of_getElem? hi)
  refine { h with visits := fun v hv => h.visits v (List.mem_of_mem_eraseIdx hv), answered := ?_ }
  intro a ha
  obtain ha | ha := List.mem_append.1 ha
  · exact h.answered a ha
  · rw [List.mem_singleton.1 ha]
    exact hsound

/-- A request without the turn looks at the items, which were published last. -/
theorem look {i : Nat} {next : Option (List Item) → Visit μ τ ρ}
    (hi : S.visits[i]? = some (asked, .look next)) :
    System.Valid b start { S with visits := S.visits.set i (asked, next S.inventory.items) } := by
  obtain ⟨hsome, t, hnone, hturn, hlooks⟩ := h.visits _ (List.mem_of_getElem? hi)
  refine { h with visits := fun v hv => ?_ }
  obtain hv | rfl := List.mem_or_eq_of_mem_set hv
  · exact h.visits v hv
  cases hitems : S.inventory.items with
  | some items =>
    obtain ⟨answer, hnext, hreads⟩ := hsome items
    show Visit.Sound b start S.turns S.published asked (next (some items))
    rw [hnext]
    exact .read (mem_of_getLast?_map (hitems ▸ h.items_eq)) hreads
  | none =>
    show Visit.Sound b start S.turns S.published asked (next none)
    rw [hnone]
    exact ⟨hturn, fun _ => hlooks⟩

/-- A request gets the turn where the requests before it are all done. -/
theorem begin_turn {i : Nat} {t : Turn μ τ ρ} (hi : S.visits[i]? = some (asked, .wait t))
    (hfree : S.holder = none) :
    System.Valid b start
      { S with
        visits := S.visits.eraseIdx i, holder := some (asked, t), turns := S.turns ++ [asked] } := by
  obtain ⟨hturn, hlooks⟩ := h.visits _ (List.mem_of_getElem? hi)
  obtain ⟨hpublished, hinventory⟩ := h.idle hfree
  have hturns : S.turns <+: S.turns ++ [asked] := List.prefix_append _ _
  refine
    { visits := fun v hv =>
        (h.visits v (List.mem_of_mem_eraseIdx hv)).mono hturns List.prefix_rfl
      idle := fun hnone => nomatch hnone
      underway := ?_
      answered := fun a ha => (h.answered a ha).mono hturns List.prefix_rfl
      items_eq := h.items_eq
      later := h.later }
  rintro _ _ ⟨rfl, rfl⟩
  exact ⟨S.turns, underway_of_isTurn hturn hlooks hpublished hinventory⟩

/-- A request without the turn goes on. -/
theorem visit (i : Nat) : (S.visit i).Valid b start := by
  unfold System.visit
  split
  · exact h
  · rename_i hi
    exact h.answer hi
  · rename_i hi
    exact h.look hi
  · rename_i hi
    split
    · exact h
    · rename_i hfree
      exact h.begin_turn hi hfree

/-- A request gives the turn back, with nothing left to publish. -/
theorem leave (hstart : start.items = none) {answer : Except InventoryError Answer}
    (hholder : S.holder = some (asked, .leave answer)) :
    System.Valid b start
      { S with holder := none, answered := S.answered ++ [(asked, answer)] } := by
  obtain ⟨before, hunderway⟩ := h.underway _ _ hholder
  have hpublished : S.published ++ [] = (serial b start S.turns).published :=
    hunderway.published_eq
  refine
    { h with
      idle := fun _ => ⟨(List.append_nil _).symm.trans hpublished, hunderway.inventory_eq⟩
      underway := fun _ _ hnone => nomatch hnone
      answered := ?_ }
  intro a ha
  obtain ha | ha := List.mem_append.1 ha
  · exact h.answered a ha
  · rw [List.mem_singleton.1 ha]
    exact explained_of_leave hunderway (items_serial hstart before)

/-- The request that has the turn goes on without publishing. -/
theorem go_on {s : Inventory μ τ ρ} {t : Turn μ τ ρ} (hitems : s.items = S.inventory.items)
    (hunderway : ∃ before, Underway b start S.turns S.published s asked t before) :
    System.Valid b start { S with inventory := s, holder := some (asked, t) } := by
  refine
    { h with
      idle := fun hnone => nomatch hnone
      underway := ?_
      items_eq := hitems.trans h.items_eq }
  rintro _ _ ⟨rfl, rfl⟩
  exact hunderway

/-- The request that has the turn publishes. -/
theorem publish {items : List Item} {answer : Except InventoryError Answer}
    (hholder : S.holder = some (asked, .publish items answer)) :
    System.Valid b start
      { S with
        inventory := { S.inventory with items := some items }
        holder := some (asked, .leave answer)
        published := S.published ++ [(asked, items)] } := by
  obtain ⟨before, hunderway⟩ := h.underway _ _ hholder
  have hprefix : S.published <+: S.published ++ [(asked, items)] := List.prefix_append _ _
  refine
    { visits := fun v hv => (h.visits v hv).mono List.prefix_rfl hprefix
      idle := fun hnone => nomatch hnone
      underway := ?_
      answered := fun a ha => (h.answered a ha).mono List.prefix_rfl hprefix
      items_eq := by rw [List.getLast?_concat, Option.map_some]
      later := hunderway.later_of_publish h.later }
  rintro _ _ ⟨rfl, rfl⟩
  exact ⟨before, hunderway.publish⟩

/-- The request that has the turn takes one step. -/
theorem turn (hstart : start.items = none) : S.turn.Valid b start := by
  unfold System.turn
  split
  · exact h
  · rename_i hholder
    exact h.leave hstart hholder
  · rename_i hholder
    obtain ⟨before, hunderway⟩ := h.underway _ _ hholder
    exact h.go_on rfl ⟨before, hunderway.look h.items_eq⟩
  · rename_i frame _ hholder
    obtain ⟨before, hunderway⟩ := h.underway _ _ hholder
    exact h.go_on (frame _) ⟨before, hunderway.work⟩
  · rename_i hholder
    exact h.publish hholder

theorem step (hstart : start.items = none) (move : Move) : (S.step b move).Valid b start := by
  cases move with
  | arrive asked =>
    refine { h with visits := fun v hv => ?_ }
    obtain hv | hv := List.mem_append.1 hv
    · exact h.visits v hv
    · rw [List.mem_singleton.1 hv]
      exact sound_visit asked
  | visit i => exact h.visit i
  | turn => exact h.turn hstart

omit h in
theorem run (hstart : start.items = none) (h : S.Valid b start) (schedule : List Move) :
    (S.run b schedule).Valid b start := by
  induction schedule generalizing S with
  | nil => exact h
  | cons move rest ih => exact ih (h.step hstart move)

end System.Valid

end

/-! ## What every schedule comes to -/

/-- A turn whose next step is to work with a manager or to publish. -/
def Turn.Works {μ τ ρ : Type} : Turn μ τ ρ → Prop
  | .leave _ => False
  | .look _ => False
  | .work .. => True
  | .publish .. => True

section

variable {μ τ ρ : Type}

/-- The answer to a request is known, even if it was not given yet. -/
def System.Decided (S : System μ τ ρ) (asked : Asked) (answer : Except InventoryError Answer) :
    Prop :=
  (asked, answer) ∈ S.answered ∨ (asked, .answered answer) ∈ S.visits ∨
    S.holder = some (asked, .leave answer)

variable (b : Backends μ τ ρ) (start : Inventory μ τ ρ)

/-- Requests at the same time publish what they publish one after the other in the order of their
turns. -/
structure System.Serializable (S : System μ τ ρ) : Prop where
  /-- When nobody has the turn, exactly that was published, and the inventory is the same. -/
  idle : S.holder = none → S.published = (serial b start S.turns).published ∧
    S.inventory = (serial b start S.turns).inventory
  /-- Until then, all of it but what the request that has the turn is yet to publish. -/
  underway : ∀ asked t, S.holder = some (asked, t) → ∃ before, S.turns = before ++ [asked] ∧
    (serial b start before).published <+: S.published ∧
    S.published <+: (serial b start S.turns).published
  /-- The items are those that were published last. -/
  items_eq : S.inventory.items = S.published.getLast?.map (·.2)
  /-- As soon as an answer is known, what it comes from was published. -/
  explained : ∀ asked answer, S.Decided asked answer →
    Explained b start S.turns S.published asked answer
  /-- A read works with managers only if nothing was published. -/
  population : ∀ asked t, S.holder = some (asked, t) → asked.request.isRead = true → t.Works →
    S.published = []
  /-- Only what is published first may be published by a read. -/
  later : ∀ p ∈ S.published.tail, p.1.request.isRead = false

variable {b start}

theorem System.Valid.serializable {S : System μ τ ρ} (hstart : start.items = none)
    (h : S.Valid b start) : S.Serializable b start where
  idle := h.idle
  underway asked t hholder := by
    obtain ⟨before, hunderway⟩ := h.underway asked t hholder
    exact ⟨before, hunderway.turns_eq, hunderway.isPrefix, _, hunderway.published_eq⟩
  items_eq := h.items_eq
  explained asked answer hdecided := by
    obtain hanswered | hvisit | hholder := hdecided
    · exact h.answered _ hanswered
    · exact h.visits _ hvisit
    · obtain ⟨before, hunderway⟩ := h.underway _ _ hholder
      exact explained_of_leave hunderway (items_serial hstart before)
  population asked t hholder hread hworks := by
    obtain ⟨before, hunderway⟩ := h.underway asked t hholder
    refine (hunderway.onlyLooks hread).resolve_right fun hlooks => ?_
    cases t with
    | leave _ => exact hworks
    | look _ => exact hworks
    | work _ _ _ => exact hlooks
    | publish _ _ => exact hlooks
  later := h.later

/-- Whatever is asked of an inventory without items, whatever the managers answer, and in whatever
order the steps of the requests are taken: what is published is what the requests publish one after
the other. -/
theorem serializable_of_schedule (b : Backends μ τ ρ) (media : μ) (torrents : τ) (trackers : ρ)
    (folder : SnapshotFolder) (schedule : List Move) :
    (System.run b { inventory := { media, torrents, trackers, folder } } schedule).Serializable b
      { media, torrents, trackers, folder } := by
  let start : Inventory μ τ ρ := { media, torrents, trackers, folder }
  have hvalid : System.Valid b start { inventory := start } :=
    { visits := fun v hv => nomatch hv
      idle := fun _ => ⟨rfl, rfl⟩
      underway := fun _ _ hnone => nomatch hnone
      answered := fun a ha => nomatch ha
      items_eq := rfl
      later := fun p hp => nomatch hp }
  exact (hvalid.run rfl schedule).serializable rfl

end

namespace Sample

/-- Two first reads that both find no items before either gets the turn. -/
def twoReads : List Move :=
  let read : Asked := ⟨.list 1 {}, ⟨0, 0⟩⟩
  [.arrive read, .arrive read, .visit 0, .visit 1, .visit 0, .visit 0] ++ List.replicate 8 .turn ++
    [.visit 0, .turn, .turn]

end Sample

open Sample in
theorem one_population_of_two_reads :
    let S := System.run backends { inventory } twoReads
    S.answered.length = 2 ∧ S.published.length = 1 ∧ S.inventory.media.refreshes = 1 ∧
      S.published = (serial backends inventory S.turns).published := by
  have h := serializable_of_schedule backends inventory.media inventory.torrents
    inventory.trackers inventory.folder twoReads
  exact ⟨rfl, rfl, rfl, (h.idle rfl).1⟩

end SeedCleanup

import SeedCleanup.Inventory.Deletion
import SeedCleanup.Proofs.FirstMatch

/-!
# What a deletion does to the items

An id addresses the first title with its key. Items change only when every call of the deletion
succeeded (`delete_cases`), and then the files that the id names are gone from that title
(`withoutSelected_append_cons`).
-/

namespace SeedCleanup

/-- The kind and the number of a title, by which requests address it. -/
def Title.key (title : Title) : MediaKind × Int64 := (title.kind, title.id)

/-- The title that an id addresses. -/
def MediaId.titleKey (m : MediaId) : MediaKind × Int64 := (m.kind, m.id)

/-! ## What an id addresses -/

theorem isTitle_iff {item : Item} {id : MediaId} :
    item.isTitle id.kind id.id = true ↔ item.linked.title.key = id.titleKey := by
  rw [Item.isTitle, Bool.and_eq_true, beq_iff_eq, beq_iff_eq, Title.key, MediaId.titleKey,
    Prod.mk.injEq]

/-- An id selects the first title that it addresses, if it names files of it. -/
theorem selection?_eq_some_iff {id : MediaId} {items : List Item} {item : Item} :
    selection? id items = some item
      ↔ IsFirst (·.linked.title.key = id.titleKey) items item ∧ item.selected id ≠ [] := by
  rw [selection?, Option.filter_eq_some_iff, find?_eq_some_iff_isFirst]
  simp only [isTitle_iff, Bool.not_eq_true', List.isEmpty_eq_false_iff]

/-! ## What is left of a title -/

/-- What is left of an item without the files that an id names; nothing if no file is left. -/
def Item.remainder? (item : Item) (id : MediaId) : Option Item :=
  if item.linked.files.all fun f => id.selects f.file then none
  else some (item.withoutFiles id.selects)

/-- The files that an id names are taken out of the first title that it addresses. -/
theorem withoutSelected_append_cons {id : MediaId} {before after : List Item} {item : Item}
    (hitem : item.linked.title.key = id.titleKey)
    (hbefore : ∀ x ∈ before, x.linked.title.key ≠ id.titleKey) :
    withoutSelected id (before ++ item :: after)
      = before ++ (item.remainder? id).toList ++ after := by
  induction before with
  | nil =>
    rw [List.nil_append, withoutSelected, if_pos (isTitle_iff.2 hitem), Item.remainder?]
    have hall : (item.selected id).length = item.linked.files.length
        ↔ (item.linked.files.all fun f => id.selects f.file) = true := by
      rw [Item.selected, List.length_filter_eq_length_iff, List.all_eq_true]
    by_cases h : (item.linked.files.all fun f => id.selects f.file) = true
    · rw [if_pos (hall.2 h), if_pos h]
      rfl
    · rw [if_neg (mt hall.1 h), if_neg h]
      rfl
  | cons x before ih =>
    obtain ⟨hx, hbefore⟩ := List.forall_mem_cons.1 hbefore
    rw [List.cons_append, withoutSelected, if_neg (mt isTitle_iff.1 hx), ih hbefore]
    rfl

namespace Inventory

variable {μ τ ρ : Type} {b : Backends μ τ ρ}

/-- The calls of a deletion fail and leave the items alone, or they all succeed. -/
theorem deleteSelected_cases {id : MediaId} {item : Item} {items : List Item}
    {s s' : Inventory μ τ ρ} {result : Except InventoryError Unit}
    (h : s.deleteSelected b id item items = (result, s')) :
    (∃ e, result = .error e ∧ s'.items = s.items) ∨
    (result = .ok () ∧ s'.items = some (withoutSelected id items)) := by
  unfold deleteSelected at h
  simp only at h
  split at h
  · rename_i e torrents _
    cases h
    exact .inl ⟨e, rfl, rfl⟩
  · split at h
    · rename_i e media _
      cases h
      exact .inl ⟨e, rfl, rfl⟩
    · cases h
      exact .inr ⟨rfl, rfl⟩

/-- A deletion fails and leaves the items alone, or it takes out the files that its id names. -/
theorem delete_cases {text : String} {s s' : Inventory μ τ ρ} {result : Except InventoryError Unit}
    (h : s.delete b text = (result, s')) :
    (∃ e, result = .error e ∧ s'.items = s.items) ∨
    (∃ id items item, MediaId.parse text = some id ∧ s.items = some items ∧
      selection? id items = some item ∧ result = .ok () ∧
      s'.items = some (withoutSelected id items)) := by
  unfold delete at h
  split at h
  · cases h
    exact .inl ⟨_, rfl, rfl⟩
  · rename_i id hid
    split at h
    · cases h
      exact .inl ⟨_, rfl, rfl⟩
    · rename_i items hitems
      split at h
      · cases h
        exact .inl ⟨_, rfl, rfl⟩
      · rename_i item hitem
        obtain hfailed | ⟨hresult, hafter⟩ := deleteSelected_cases h
        · exact .inl hfailed
        · exact .inr ⟨id, items, item, hid, hitems, hitem, hresult, hafter⟩

end Inventory

end SeedCleanup

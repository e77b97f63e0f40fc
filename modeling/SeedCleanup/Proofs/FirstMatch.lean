import Mathlib.Data.List.Forall2
import Mathlib.Data.List.Induction

/-!
# The first match in a list

What it means that an element is the first of a list with a property, and that `find?` finds it.
What it means that a list holds the elements of another one by their first appearances, and that
`eraseDups` gives it.
-/

namespace SeedCleanup

variable {α β : Type}

/-- `x` stands in the list and has the property, and nothing before it has it. -/
def IsFirst (p : α → Prop) (l : List α) (x : α) : Prop :=
  ∃ before after, l = before ++ x :: after ∧ p x ∧ ∀ y ∈ before, ¬p y

theorem find?_eq_some_iff_isFirst {p : α → Bool} {l : List α} {x : α} :
    l.find? p = some x ↔ IsFirst (fun y => p y = true) l x := by
  rw [List.find?_eq_some_iff_append, IsFirst]
  constructor
  · rintro ⟨hx, before, after, rfl, hbefore⟩
    exact ⟨before, after, rfl, hx, fun y hy => by simpa using hbefore y hy⟩
  · rintro ⟨before, after, rfl, hx, hbefore⟩
    exact ⟨hx, before, after, rfl, fun y hy => by simpa using hbefore y hy⟩

/-- The first match of a list is its head, or it is that of the rest after a head that is none. -/
theorem isFirst_cons {p : α → Prop} {x y : α} {l : List α} :
    IsFirst p (x :: l) y ↔ p x ∧ y = x ∨ ¬p x ∧ IsFirst p l y := by
  constructor
  · rintro ⟨before, after, heq, hy, hbefore⟩
    cases before with
    | nil =>
      obtain ⟨rfl, -⟩ := List.cons.inj heq
      exact .inl ⟨hy, rfl⟩
    | cons z before =>
      obtain ⟨rfl, rfl⟩ := List.cons.inj heq
      obtain ⟨hx, hbefore⟩ := List.forall_mem_cons.1 hbefore
      exact .inr ⟨hx, before, after, rfl, hy, hbefore⟩
  · rintro (⟨hx, rfl⟩ | ⟨hx, before, after, rfl, hy, hbefore⟩)
    · exact ⟨[], l, rfl, hx, by simp⟩
    · exact ⟨x :: before, after, rfl, hy, List.forall_mem_cons.2 ⟨hx, hbefore⟩⟩

theorem isFirst_append {p : α → Prop} {x : α} {l l' : List α} (h : ∀ y ∈ l, ¬p y) :
    IsFirst p (l ++ l') x ↔ IsFirst p l' x := by
  induction l with
  | nil => rfl
  | cons y l ih =>
    obtain ⟨hy, hl⟩ := List.forall_mem_cons.1 h
    rw [List.cons_append, isFirst_cons, ih hl]
    simp [hy]

/-- There is a first match if there is any. -/
theorem exists_isFirst_iff {p : α → Prop} {l : List α} :
    (∃ x, IsFirst p l x) ↔ ∃ x ∈ l, p x := by
  constructor
  · rintro ⟨x, before, after, rfl, hx, -⟩
    exact ⟨x, List.mem_append_right _ List.mem_cons_self, hx⟩
  · rintro ⟨x, hmem, hx⟩
    induction l with
    | nil => cases hmem
    | cons y l ih =>
      by_cases hy : p y
      · exact ⟨y, isFirst_cons.2 (.inl ⟨hy, rfl⟩)⟩
      · -- the head is no match, so the match stands behind it
        have hne : x ≠ y := fun heq => hy (heq ▸ hx)
        obtain ⟨z, hz⟩ := ih ((List.mem_cons.1 hmem).resolve_left hne)
        exact ⟨z, isFirst_cons.2 (.inr ⟨hy, hz⟩)⟩

/-- A list has at most one first match. -/
theorem IsFirst.unique {p : α → Prop} {l : List α} {x y : α} (hx : IsFirst p l x)
    (hy : IsFirst p l y) : x = y := by
  classical
  have key : ∀ z, IsFirst p l z → l.find? (fun w => decide (p w)) = some z := by
    intro z hz
    rw [find?_eq_some_iff_isFirst]
    simpa using hz
  exact Option.some.inj ((key x hx).symm.trans (key y hy))

/-- In lists that correspond element by element, first matches correspond. -/
theorem IsFirst.of_forall₂ {R : α → β → Prop} {p : α → Prop} {q : β → Prop} {l : List α}
    {l' : List β} {x : α} (hl : List.Forall₂ R l l') (hpq : ∀ a b, R a b → (p a ↔ q b))
    (hx : IsFirst p l x) : ∃ y, R x y ∧ IsFirst q l' y := by
  obtain ⟨before, after, rfl, hpx, hbefore⟩ := hx
  induction before generalizing l' with
  | nil =>
    obtain ⟨y, rest, hxy, -, rfl⟩ := List.forall₂_cons_left_iff.1 hl
    exact ⟨y, hxy, [], rest, rfl, (hpq x y hxy).1 hpx, by simp⟩
  | cons a before ih =>
    obtain ⟨b, rest, hab, hrest, rfl⟩ := List.forall₂_cons_left_iff.1 hl
    obtain ⟨ha, hbefore⟩ := List.forall_mem_cons.1 hbefore
    obtain ⟨y, hxy, before', after', rfl, hy, hbefore'⟩ := ih hrest hbefore
    refine ⟨y, hxy, b :: before', after', rfl, hy, ?_⟩
    rw [List.forall_mem_cons]
    exact ⟨fun hb => ha ((hpq a b hab).2 hb), hbefore'⟩

/-- What follows a list does not change its first match. -/
theorem IsFirst.append {p : α → Prop} {l : List α} {x : α} (h : IsFirst p l x) (l' : List α) :
    IsFirst p (l ++ l') x := by
  obtain ⟨before, after, rfl, hx, hbefore⟩ := h
  exact ⟨before, after ++ l', by rw [List.append_assoc, List.cons_append], hx, hbefore⟩

/-- `x` stands at a place of the list and has the property, and nothing before it has it. -/
def IsFirstAt (p : α → Prop) (l : List α) (i : Nat) (x : α) : Prop :=
  ∃ before after, l = before ++ x :: after ∧ before.length = i ∧ p x ∧ ∀ y ∈ before, ¬p y

theorem isFirst_iff_exists_isFirstAt {p : α → Prop} {l : List α} {x : α} :
    IsFirst p l x ↔ ∃ i, IsFirstAt p l i x := by
  constructor
  · rintro ⟨before, after, rfl, hx, hbefore⟩
    exact ⟨before.length, before, after, rfl, rfl, hx, hbefore⟩
  · rintro ⟨i, before, after, rfl, -, hx, hbefore⟩
    exact ⟨before, after, rfl, hx, hbefore⟩

/-- If more elements have the property, the first of them stands at the same place or earlier. -/
theorem IsFirstAt.exists_le {p q : α → Prop} (himp : ∀ y, p y → q y) {l : List α} {i : Nat} {x : α}
    (h : IsFirstAt p l i x) : ∃ j ≤ i, ∃ y, IsFirstAt q l j y := by
  obtain ⟨before, after, rfl, rfl, hx, -⟩ := h
  induction before with
  | nil => exact ⟨0, Nat.le_refl 0, x, [], after, rfl, rfl, himp x hx, by simp⟩
  | cons z before ih =>
    by_cases hz : q z
    · exact ⟨0, Nat.zero_le _, z, [], before ++ x :: after, rfl, rfl, hz, by simp⟩
    · obtain ⟨j, hle, y, before', after', heq, rfl, hy, hbefore'⟩ := ih
      refine ⟨before'.length + 1, Nat.succ_le_succ hle, y, z :: before', after', ?_, rfl, hy, ?_⟩
      · rw [List.cons_append, heq, List.cons_append]
      · exact List.forall_mem_cons.2 ⟨hz, hbefore'⟩

/-! ## First appearances -/

/-- A list has each element of another list once, in the order in which they first appear there. -/
structure FirstAppearances [BEq α] (firsts l : List α) : Prop where
  mem_iff : ∀ x, x ∈ firsts ↔ x ∈ l
  ascending : firsts.Pairwise fun x y => l.idxOf x < l.idxOf y

theorem firstAppearances_eraseDups [BEq α] [LawfulBEq α] (l : List α) :
    FirstAppearances l.eraseDups l := by
  refine ⟨fun x => List.mem_eraseDups, ?_⟩
  induction l using List.reverseRecOn with
  | nil => exact .nil
  | append_singleton l x ih =>
    have hl : l.eraseDups.Pairwise fun y z => (l ++ [x]).idxOf y < (l ++ [x]).idxOf z := by
      refine ih.imp_of_mem fun {y z} hy hz hlt => ?_
      rwa [List.idxOf_append, List.idxOf_append, if_pos (List.mem_eraseDups.1 hy),
        if_pos (List.mem_eraseDups.1 hz)]
    rw [List.eraseDups_append]
    by_cases hx : x ∈ l
    · have hnone : [x].removeAll l = [] := by simp [List.removeAll, hx]
      rwa [hnone, List.eraseDups_nil, List.append_nil]
    · have hone : ([x].removeAll l).eraseDups = [x] := by
        simp [List.removeAll, hx, List.eraseDups_cons]
      rw [hone, List.pairwise_append]
      refine ⟨hl, List.pairwise_singleton _ _, fun y hy z hz => ?_⟩
      -- what is new comes after everything that was there
      obtain rfl := List.mem_singleton.1 hz
      have hmem : y ∈ l := List.mem_eraseDups.1 hy
      have hlt : l.idxOf y < l.length := List.idxOf_lt_length_of_mem hmem
      rw [List.idxOf_append, List.idxOf_append, if_pos hmem, if_neg hx]
      omega

end SeedCleanup

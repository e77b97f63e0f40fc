import Mathlib.Data.List.Sort
import SeedCleanup.Data.SortedTable

/-!
# Looking things up in sorted tables

What `get?` finds after each operation of a table. A table has at most one entry for a key
(`ascending`), so `get?` sees every entry (`mem_entries_iff`), and a table is determined by what
`get?` finds in it (`ext_get?`). Tables that are filled from related lists are related (`Related`).
-/

namespace SeedCleanup
namespace SortedTable

variable {κ α : Type} [Ord κ]

/-! ## Entries and lookups -/

section

variable [BEq κ] [LawfulBEq κ] [Std.LawfulEqOrd κ]

/-- Below a larger key nothing is found. -/
theorem lookup_eq_none_of_lt {k : κ} {entries : List (κ × α)}
    (h : ∀ e ∈ entries, compare k e.1 = .lt) : entries.lookup k = none := by
  rw [List.lookup_eq_none_iff]
  intro e he
  have hne : compare k e.1 ≠ .eq := by rw [h e he]; exact Ordering.noConfusion
  rw [bne_iff_ne, ne_eq, ← Std.compare_eq_iff_eq]
  exact hne

/-- An ascending list has no second entry for a key. -/
theorem lookup_eq_some_iff {k : κ} {v : α} {entries : List (κ × α)} (h : Ascending entries) :
    entries.lookup k = some v ↔ (k, v) ∈ entries := by
  induction entries with
  | nil => simp
  | cons e rest ih =>
    obtain ⟨k', v'⟩ := e
    obtain ⟨hlt, hrest⟩ := List.pairwise_cons.1 h
    rw [List.lookup_cons, List.mem_cons]
    by_cases hk : k = k'
    · subst hk
      have hnone : rest.lookup k = none := lookup_eq_none_of_lt hlt
      have hnot : (k, v) ∉ rest := by
        rw [← ih hrest, hnone]
        simp
      simp [hnot, eq_comm]
    · rw [show (k == k') = false from beq_false_of_ne hk]
      simp [ih hrest, hk]

theorem mem_entries_iff {t : SortedTable κ α} {k : κ} {v : α} :
    (k, v) ∈ t.entries ↔ t.get? k = some v :=
  (lookup_eq_some_iff t.ascending).symm

omit [BEq κ] [LawfulBEq κ] [Std.LawfulEqOrd κ] in
/-- No key comes before itself. -/
theorem irrefl_ascending [Std.OrientedOrd κ] :
    Std.Irrefl fun x y : κ × α => compare x.1 y.1 = .lt := by
  refine ⟨fun x hx => ?_⟩
  rw [Std.compare_self] at hx
  cases hx

omit [BEq κ] [LawfulBEq κ] [Std.LawfulEqOrd κ] in
theorem nodup_entries [Std.OrientedOrd κ] (t : SortedTable κ α) : t.entries.Nodup :=
  have := irrefl_ascending (κ := κ) (α := α)
  List.Pairwise.nodup t.ascending

/-- Tables in which the same is found under every key are equal. -/
theorem ext_get? [Std.OrientedOrd κ] {a b : SortedTable κ α} (h : ∀ k, a.get? k = b.get? k) :
    a = b := by
  have hirrefl : Std.Irrefl fun x y : κ × α => compare x.1 y.1 = .lt := irrefl_ascending
  have hantisymm : Std.Antisymm fun x y : κ × α => compare x.1 y.1 = .lt := by
    refine ⟨fun x y hxy hyx => ?_⟩
    rw [← Std.OrientedCmp.gt_iff_lt, hxy] at hyx
    cases hyx
  refine SortedTable.ext (a.ascending.eq_of_mem_iff b.ascending fun e => ?_)
  rw [mem_entries_iff, mem_entries_iff, h]

theorem mem_keys_iff {t : SortedTable κ α} {k : κ} : k ∈ t.keys ↔ (t.get? k).isSome := by
  rw [keys, List.mem_map, Option.isSome_iff_exists]
  constructor
  · rintro ⟨⟨k', v⟩, hmem, rfl⟩
    exact ⟨v, mem_entries_iff.1 hmem⟩
  · rintro ⟨v, hv⟩
    exact ⟨(k, v), mem_entries_iff.2 hv, rfl⟩

/-- Filtering a table filters what is found under each key. -/
theorem get?_filter (t : SortedTable κ α) (p : κ → α → Bool) (k : κ) :
    (t.filter p).get? k = (t.get? k).filter (p k) := by
  refine Option.ext fun v => ?_
  rw [← mem_entries_iff, Option.filter_eq_some_iff, ← mem_entries_iff]
  show (k, v) ∈ t.entries.filter _ ↔ _
  rw [List.mem_filter]

end

/-- Changing the values of a table changes what is found under each key. -/
theorem get?_mapValues {β : Type} [BEq κ] [LawfulBEq κ] (t : SortedTable κ α) (f : κ → α → β)
    (k : κ) : (t.mapValues f).get? k = (t.get? k).map (f k) := by
  obtain ⟨entries, hascending⟩ := t
  show (entries.map fun e => (e.1, f e.1 e.2)).lookup k = (entries.lookup k).map (f k)
  clear hascending
  induction entries with
  | nil => rfl
  | cons e rest ih =>
    rw [List.map_cons, List.lookup_cons, List.lookup_cons]
    split
    · rename_i hk
      rw [eq_of_beq hk, Option.map_some]
    · exact ih

/-! ## Inserting -/

section

variable [Std.TransOrd κ] [Std.LawfulEqOrd κ] [BEq κ] [LawfulBEq κ]

theorem lookup_insertEntry (k : κ) (v : α) (k' : κ) (entries : List (κ × α)) :
    (insertEntry k v entries).lookup k' = if k' == k then some v else entries.lookup k' := by
  induction entries with
  | nil => rw [insertEntry, List.lookup_cons]; split <;> simp_all
  | cons e rest ih =>
    unfold insertEntry
    split
    · rw [List.lookup_cons]; split <;> simp_all
    · rename_i hk
      have hke : k = e.1 := Std.compare_eq_iff_eq.1 hk
      rw [List.lookup_cons, List.lookup_cons, ← hke]
      split <;> simp_all
    · rename_i hk
      have hke : k ≠ e.1 := by
        intro heq
        rw [heq, Std.compare_self] at hk
        exact Ordering.noConfusion hk
      rw [List.lookup_cons, List.lookup_cons, ih]
      by_cases hk' : k' = e.1
      · simp [hk', Ne.symm hke]
      · rw [show (k' == e.1) = false from beq_false_of_ne hk']

theorem get?_insert (t : SortedTable κ α) (k : κ) (v : α) (k' : κ) :
    (t.insert k v).get? k' = if k' == k then some v else t.get? k' :=
  lookup_insertEntry k v k' t.entries

theorem get?_foldl_insert (entries : List (κ × α)) (t : SortedTable κ α) (k : κ) :
    (entries.foldl (fun t e => t.insert e.1 e.2) t).get? k
      = (entries.reverse.lookup k).or (t.get? k) := by
  induction entries generalizing t with
  | nil => simp
  | cons e rest ih =>
    rw [List.foldl_cons, ih, get?_insert, List.reverse_cons, List.lookup_append, Option.or_assoc,
      List.lookup_cons, List.lookup_nil]
    cases k == e.1 <;> rfl

/-- Of several values for one key the last is found. -/
theorem get?_ofList (entries : List (κ × α)) (k : κ) :
    (ofList entries).get? k = entries.reverse.lookup k := by
  rw [ofList, get?_foldl_insert]
  exact Option.or_none

theorem mem_of_get?_ofList {entries : List (κ × α)} {k : κ} {v : α}
    (h : (ofList entries).get? k = some v) : (k, v) ∈ entries := by
  rw [get?_ofList, List.lookup_eq_some_iff] at h
  obtain ⟨l₁, l₂, heq, -⟩ := h
  rw [← List.mem_reverse, heq]
  exact List.mem_append_right _ List.mem_cons_self

theorem isSome_get?_ofList {entries : List (κ × α)} {k : κ} :
    ((ofList entries).get? k).isSome ↔ ∃ v, (k, v) ∈ entries := by
  constructor
  · intro h
    obtain ⟨v, hv⟩ := Option.isSome_iff_exists.1 h
    exact ⟨v, mem_of_get?_ofList hv⟩
  · rintro ⟨v, hv⟩
    rw [get?_ofList, List.lookup_isSome_iff]
    exact ⟨(k, v), List.mem_reverse.2 hv, beq_self_eq_true k⟩

theorem exists_mem_of_mem_values_ofList {entries : List (κ × α)} {v : α}
    (h : v ∈ (ofList entries).values) : ∃ k, (k, v) ∈ entries := by
  obtain ⟨⟨k, v⟩, hmem, rfl⟩ := List.mem_map.1 h
  exact ⟨k, mem_of_get?_ofList (mem_entries_iff.1 hmem)⟩

/-- Where all values for a key agree, the order of the list does not matter. -/
theorem get?_ofList_eq_some {entries : List (κ × α)} {k : κ} {v : α}
    (hmem : (k, v) ∈ entries) (honly : ∀ v', (k, v') ∈ entries → v' = v) :
    (ofList entries).get? k = some v := by
  obtain ⟨v', hv'⟩ := Option.isSome_iff_exists.1 (isSome_get?_ofList.2 ⟨v, hmem⟩)
  rw [hv', honly v' (mem_of_get?_ofList hv')]

/-- A list without a repeated key fills a table with exactly its entries. -/
theorem perm_entries_ofList {entries : List (κ × α)} (h : (entries.map (·.1)).Nodup) :
    (ofList entries).entries.Perm entries := by
  refine (List.perm_ext_iff_of_nodup (nodup_entries _) (List.Nodup.of_map _ h)).2 fun e => ?_
  obtain ⟨k, v⟩ := e
  rw [mem_entries_iff]
  refine ⟨mem_of_get?_ofList, fun hmem => get?_ofList_eq_some hmem fun v' hmem' => ?_⟩
  exact (Prod.mk.inj (List.inj_on_of_nodup_map h hmem' hmem rfl)).2

theorem perm_keys_ofList {entries : List (κ × α)} (h : (entries.map (·.1)).Nodup) :
    (ofList entries).keys.Perm (entries.map (·.1)) := (perm_entries_ofList h).map Prod.fst

/-- A table is filled again from its entries. -/
theorem ofList_entries (t : SortedTable κ α) : ofList t.entries = t := by
  refine ext_get? fun k => ?_
  cases hk : t.get? k with
  | some v =>
    refine get?_ofList_eq_some (mem_entries_iff.2 hk) fun v' hv' => ?_
    exact Option.some.inj ((mem_entries_iff.1 hv').symm.trans hk)
  | none =>
    rw [← Option.not_isSome_iff_eq_none, isSome_get?_ofList]
    rintro ⟨v, hv⟩
    rw [mem_entries_iff.1 hv] at hk
    cases hk

end

/-! ## Lists under keys -/

section

variable {β : Type}

/-- Entries without a list add nothing to what a table lists. -/
theorem flatten_values_filter (t : SortedTable κ (List β)) :
    (t.filter fun _ l => !l.isEmpty).values.flatten = t.values.flatten := by
  have hvalues : (t.filter fun _ l => !l.isEmpty).values = t.values.filter fun l => !l.isEmpty := by
    rw [values, values, List.filter_map]
    rfl
  rw [hvalues, List.flatten_filter_not_isEmpty]

variable [BEq κ] [LawfulBEq κ] [Std.LawfulEqOrd κ]

/-- Tables that hold the same under every key, up to empty lists, list the same. -/
theorem flatten_values_eq [Std.OrientedOrd κ] {a b : SortedTable κ (List β)}
    (h : ∀ k, (a.get? k).getD [] = (b.get? k).getD []) : a.values.flatten = b.values.flatten := by
  have hnonempty (t : SortedTable κ (List β)) (k : κ) :
      (t.filter fun _ l => !l.isEmpty).get? k
        = (some ((t.get? k).getD [])).filter fun l => !l.isEmpty := by
    rw [get?_filter]
    cases t.get? k <;> rfl
  have heq : (a.filter fun _ l => !l.isEmpty) = b.filter fun _ l => !l.isEmpty :=
    ext_get? fun k => by rw [hnonempty, hnonempty, h]
  rw [← flatten_values_filter a, heq, flatten_values_filter]

/-- If every list holds what belongs to its key, the key finds it again among everything. -/
theorem filter_flatten_values {key : β → κ} {t : SortedTable κ (List β)}
    (h : ∀ k l, (k, l) ∈ t.entries → ∀ b ∈ l, key b = k) (k : κ) :
    t.values.flatten.filter (fun b => key b == k) = (t.get? k).getD [] := by
  obtain ⟨entries, hascending⟩ := t
  show (entries.map (·.2)).flatten.filter _ = (entries.lookup k).getD []
  induction entries with
  | nil => rfl
  | cons e rest ih =>
    obtain ⟨k', l⟩ := e
    obtain ⟨hlt, hrest⟩ := List.pairwise_cons.1 hascending
    have hl : ∀ b ∈ l, key b = k' := h k' l List.mem_cons_self
    have ih := ih hrest fun k₁ l₁ hmem => h k₁ l₁ (List.mem_cons_of_mem _ hmem)
    rw [List.map_cons, List.flatten_cons, List.filter_append, ih, List.lookup_cons]
    by_cases hk : k = k'
    · subst hk
      have hnone : rest.lookup k = none := lookup_eq_none_of_lt hlt
      have hall : l.filter (fun b => key b == k) = l := by
        rw [List.filter_eq_self]
        intro b hb
        rw [hl b hb]
        exact beq_self_eq_true k
      rw [hall, hnone, beq_self_eq_true]
      exact List.append_nil l
    · have hnothing : l.filter (fun b => key b == k) = [] := by
        rw [List.filter_eq_nil_iff]
        intro b hb
        rw [hl b hb]
        exact Bool.not_eq_true _ ▸ beq_false_of_ne (Ne.symm hk)
      rw [hnothing, beq_false_of_ne hk]
      rfl

end

/-! ## Tables with related values -/

section

variable {β : Type} {R : α → β → Prop}

/-- Two entries have the same key and related values. -/
def RelatedEntries (R : α → β → Prop) (e : κ × α) (e' : κ × β) : Prop := e'.1 = e.1 ∧ R e.2 e'.2

/-- Two tables have the same keys, and the values under each of them are related. -/
def Related (R : α → β → Prop) (t : SortedTable κ α) (t' : SortedTable κ β) : Prop :=
  List.Forall₂ (RelatedEntries R) t.entries t'.entries

theorem Related.keys_eq {t : SortedTable κ α} {t' : SortedTable κ β} (h : t.Related R t') :
    t'.keys = t.keys := by
  rw [keys, keys, ← List.forall₂_eq_eq_eq, List.forall₂_map_left_iff, List.forall₂_map_right_iff]
  exact (List.Forall₂.flip h).imp fun _ _ he => he.1

theorem Related.get? [BEq κ] {t : SortedTable κ α} {t' : SortedTable κ β} (h : t.Related R t')
    (k : κ) : Option.Rel R (t.get? k) (t'.get? k) := by
  obtain ⟨entries, hascending⟩ := t
  obtain ⟨entries', hascending'⟩ := t'
  show Option.Rel R (entries.lookup k) (entries'.lookup k)
  have hentries : List.Forall₂ (RelatedEntries R) entries entries' := h
  clear h hascending hascending'
  induction hentries with
  | nil => exact .none
  | cons he _ ih =>
    rw [List.lookup_cons, List.lookup_cons, he.1]
    split
    · exact .some he.2
    · exact ih

theorem related_insertEntry {k : κ} {v : α} {v' : β} (hv : R v v') {entries : List (κ × α)}
    {entries' : List (κ × β)} (h : List.Forall₂ (RelatedEntries R) entries entries') :
    List.Forall₂ (RelatedEntries R) (insertEntry k v entries) (insertEntry k v' entries') := by
  induction h with
  | nil => exact .cons ⟨rfl, hv⟩ .nil
  | @cons e e' rest rest' he hrest ih =>
    unfold insertEntry
    rw [he.1]
    cases compare k e.1 with
    | lt => exact .cons ⟨rfl, hv⟩ (.cons he hrest)
    | eq => exact .cons ⟨rfl, hv⟩ hrest
    | gt => exact .cons he ih

theorem related_ofList [Std.TransOrd κ] {entries : List (κ × α)} {entries' : List (κ × β)}
    (h : List.Forall₂ (RelatedEntries R) entries entries') :
    (ofList entries).Related R (ofList entries') := by
  have hfill : ∀ (t : SortedTable κ α) (t' : SortedTable κ β), t.Related R t' →
      (entries.foldl (fun t e => t.insert e.1 e.2) t).Related R
        (entries'.foldl (fun t e => t.insert e.1 e.2) t') := by
    induction h with
    | nil => exact fun _ _ ht => ht
    | @cons e e' rest rest' he _ ih =>
      intro t t' ht
      have hinsert : (t.insert e.1 e.2).Related R (t'.insert e'.1 e'.2) := by
        rw [he.1]
        exact related_insertEntry he.2 ht
      exact ih _ _ hinsert
  exact hfill _ _ .nil

end

end SortedTable
end SeedCleanup

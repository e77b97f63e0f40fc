/-!
# Tables sorted by key

A `SortedTable` keeps at most one value per key and lists its entries in ascending order of the
keys. Two tables with the same entries are equal, so a table is determined by what it holds and
not by the order in which it was filled.
-/

namespace SeedCleanup

/-! ## Inserting into an ascending list -/

/-- Put a value under a key, replacing the value that was there. -/
def insertEntry {κ α : Type} [Ord κ] (k : κ) (v : α) : List (κ × α) → List (κ × α)
  | [] => [(k, v)]
  | e :: rest =>
    match compare k e.1 with
    | .lt => (k, v) :: e :: rest
    | .eq => (k, v) :: rest
    | .gt => e :: insertEntry k v rest

/-- Keys ascend from one entry to the next. -/
def Ascending {κ α : Type} [Ord κ] (entries : List (κ × α)) : Prop :=
  entries.Pairwise fun a b => compare a.1 b.1 = .lt

/-- Inserting brings in no entry but the new one. -/
theorem eq_or_mem_of_mem_insertEntry {κ α : Type} [Ord κ] {k : κ} {v : α} {e : κ × α}
    {entries : List (κ × α)} (h : e ∈ insertEntry k v entries) : e = (k, v) ∨ e ∈ entries := by
  induction entries with
  | nil => simpa [insertEntry] using h
  | cons a rest ih =>
    unfold insertEntry at h
    split at h
    · simpa using h
    · rcases List.mem_cons.1 h with h | h
      · exact .inl h
      · exact .inr (List.mem_cons_of_mem _ h)
    · rcases List.mem_cons.1 h with h | h
      · exact .inr (h ▸ List.mem_cons_self)
      · exact (ih h).imp_right (List.mem_cons_of_mem _)

/-- Inserting keeps the keys ascending. -/
theorem Ascending.insertEntry {κ α : Type} [Ord κ] [Std.TransOrd κ] (k : κ) (v : α)
    {entries : List (κ × α)} (h : Ascending entries) : Ascending (insertEntry k v entries) := by
  induction entries with
  | nil => simp [SeedCleanup.insertEntry, Ascending]
  | cons a rest ih =>
    obtain ⟨ha, hr⟩ := List.pairwise_cons.1 h
    unfold SeedCleanup.insertEntry
    split
    · rename_i hk
      refine List.pairwise_cons.2 ⟨fun e he => ?_, h⟩
      rcases List.mem_cons.1 he with he | he
      · exact he ▸ hk
      · exact Std.TransCmp.lt_trans hk (ha e he)
    · rename_i hk
      exact List.pairwise_cons.2 ⟨fun e he => Std.TransCmp.lt_of_eq_of_lt hk (ha e he), hr⟩
    · rename_i hk
      refine List.pairwise_cons.2 ⟨fun e he => ?_, ih hr⟩
      rcases eq_or_mem_of_mem_insertEntry he with he | he
      · subst he
        exact Std.OrientedCmp.gt_iff_lt.1 hk
      · exact ha e he

/-! ## Tables -/

/-- A table holds its entries in ascending order of their keys. -/
structure SortedTable (κ α : Type) [Ord κ] where
  entries : List (κ × α)
  ascending : Ascending entries

namespace SortedTable

variable {κ α β : Type} [Ord κ]

instance [DecidableEq κ] [DecidableEq α] : DecidableEq (SortedTable κ α) := fun a b =>
  match a, b with
  | ⟨xs, _⟩, ⟨ys, _⟩ => decidable_of_iff (xs = ys) (by simp)

/-- Tables with the same entries are equal. -/
@[ext] theorem ext {a b : SortedTable κ α} (h : a.entries = b.entries) : a = b := by
  cases a; cases b; cases h; rfl

/-- The table without entries. -/
def empty : SortedTable κ α := ⟨[], List.Pairwise.nil⟩

instance : Inhabited (SortedTable κ α) := ⟨empty⟩

/-- Put a value under a key, replacing the value that was there. -/
def insert [Std.TransOrd κ] (t : SortedTable κ α) (k : κ) (v : α) : SortedTable κ α :=
  ⟨insertEntry k v t.entries, t.ascending.insertEntry k v⟩

/-- The table of a list of entries: of several values for one key the last is kept. -/
def ofList [Std.TransOrd κ] (entries : List (κ × α)) : SortedTable κ α :=
  entries.foldl (fun t e => t.insert e.1 e.2) empty

/-- The value under a key. -/
def get? [BEq κ] (t : SortedTable κ α) (k : κ) : Option α := t.entries.lookup k

/-- The keys, ascending. -/
def keys (t : SortedTable κ α) : List κ := t.entries.map (·.1)

/-- The values, in the order of their keys. -/
def values (t : SortedTable κ α) : List α := t.entries.map (·.2)

/-- The entries that satisfy a test. -/
def filter (t : SortedTable κ α) (p : κ → α → Bool) : SortedTable κ α :=
  ⟨t.entries.filter fun e => p e.1 e.2, t.ascending.filter _⟩

/-- Change every value and leave the keys. -/
def mapValues (t : SortedTable κ α) (f : κ → α → β) : SortedTable κ β :=
  ⟨t.entries.map fun e => (e.1, f e.1 e.2), by
    simpa [Ascending, List.pairwise_map] using t.ascending⟩

/-- Whether a table has no entry. -/
def isEmpty (t : SortedTable κ α) : Bool := t.entries.isEmpty

/-- How many entries a table has. -/
def size (t : SortedTable κ α) : Nat := t.entries.length

end SortedTable

end SeedCleanup

import Mathlib.Data.List.Nodup
import SeedCleanup.Json.Basic

/-!
# Members of documents

A document of which every part is kept has no two members of one name in an object
(`Json.namesOnce_sorted`). Then an object is known from the members that are found in it by name
(`Json.member?_eq_some_iff`), and to set one member leaves the others as they were
(`Json.member?_setMember_of_ne`).
-/

namespace SeedCleanup.Json

/-! ## Names that are not repeated -/

mutual

/-- No object of a document names a member twice. -/
def NamesOnce : Json → Prop
  | .arr items => ItemsNameOnce items
  | .obj members => (members.map (·.1)).Nodup ∧ MembersNameOnce members
  | _ => True

/-- No object of an item names a member twice. -/
def ItemsNameOnce : List Json → Prop
  | [] => True
  | item :: rest => NamesOnce item ∧ ItemsNameOnce rest

/-- No object of a value names a member twice. -/
def MembersNameOnce : List (String × Json) → Prop
  | [] => True
  | (_, value) :: rest => NamesOnce value ∧ MembersNameOnce rest

end

theorem itemsNameOnce_iff {items : List Json} :
    ItemsNameOnce items ↔ ∀ item ∈ items, item.NamesOnce := by
  induction items with
  | nil => simp [ItemsNameOnce]
  | cons item rest ih => rw [ItemsNameOnce, ih, List.forall_mem_cons]

theorem membersNameOnce_iff {members : List (String × Json)} :
    MembersNameOnce members ↔ ∀ m ∈ members, m.2.NamesOnce := by
  induction members with
  | nil => simp [MembersNameOnce]
  | cons m rest ih => rw [MembersNameOnce, ih, List.forall_mem_cons]

theorem namesOnce_arr_iff {items : List Json} :
    (arr items).NamesOnce ↔ ∀ item ∈ items, item.NamesOnce := itemsNameOnce_iff

theorem namesOnce_obj_iff {members : List (String × Json)} :
    (obj members).NamesOnce ↔ (members.map (·.1)).Nodup ∧ ∀ m ∈ members, m.2.NamesOnce := by
  rw [NamesOnce, membersNameOnce_iff]

/-! ## Finding members -/

section

variable {members : List (String × Json)} {name : String} {value : Json}

/-- What is found by name is a member, whether or not names are repeated. -/
theorem mem_of_member?_eq_some (h : (obj members).member? name = some value) :
    (name, value) ∈ members := by
  obtain ⟨m, hfind, rfl⟩ := Option.map_eq_some_iff.1 h
  obtain rfl : m.1 = name := beq_iff_eq.1 (List.find?_some hfind :)
  exact List.mem_reverse.1 (List.mem_of_find?_eq_some hfind)

/-- Every member of an object without repeated names is found. -/
theorem member?_eq_some_iff (h : (members.map (·.1)).Nodup) :
    (obj members).member? name = some value ↔ (name, value) ∈ members := by
  refine ⟨mem_of_member?_eq_some, fun hmem => ?_⟩
  have hfound : (members.reverse.find? (·.1 == name)).isSome := by
    rw [List.find?_isSome]
    exact ⟨(name, value), List.mem_reverse.2 hmem, beq_self_eq_true name⟩
  obtain ⟨m, hm⟩ := Option.isSome_iff_exists.1 hfound
  have hmember : (obj members).member? name = some m.2 := by rw [member?, hm, Option.map_some]
  have heq : (name, m.2) = (name, value) :=
    List.inj_on_of_nodup_map h (mem_of_member?_eq_some hmember) hmem rfl
  rw [hmember, (Prod.mk.inj heq).2]

/-- It does not matter from which end an object without repeated names is searched. -/
theorem lookup_eq_member? (h : (members.map (·.1)).Nodup) :
    members.lookup name = (obj members).member? name := by
  ext value
  rw [member?_eq_some_iff h]
  constructor
  · intro hlookup
    obtain ⟨before, after, rfl, -⟩ := List.lookup_eq_some_iff.1 hlookup
    exact List.mem_append_right _ List.mem_cons_self
  · intro hmem
    have hfound : (members.lookup name).isSome := by
      rw [List.lookup_isSome_iff]
      exact ⟨_, hmem, beq_self_eq_true name⟩
    obtain ⟨value', hvalue'⟩ := Option.isSome_iff_exists.1 hfound
    obtain ⟨before, after, rfl, -⟩ := List.lookup_eq_some_iff.1 hvalue'
    have heq : (name, value') = (name, value) :=
      List.inj_on_of_nodup_map h (List.mem_append_right _ List.mem_cons_self) hmem rfl
    rw [hvalue', (Prod.mk.inj heq).2]

/-- The values of members can be changed by name without regard to repeated names. -/
theorem member?_map (f : String → Json → Json) :
    (obj (members.map fun m => (m.1, f m.1 m.2))).member? name
      = ((obj members).member? name).map (f name) := by
  rw [member?, member?, ← List.map_reverse, List.find?_map, Option.map_map, Option.map_map]
  cases hfind : members.reverse.find? ((fun m => m.1 == name) ∘ fun m => (m.1, f m.1 m.2)) with
  | none =>
    have hnone : members.reverse.find? (·.1 == name) = none := hfind
    rw [hnone]
    rfl
  | some m =>
    have hsome : members.reverse.find? (·.1 == name) = some m := hfind
    obtain rfl : m.1 = name := beq_iff_eq.1 (List.find?_some hsome :)
    rw [hsome]
    rfl

/-! ## Setting members -/

theorem map_fst_setMember : (setMember name value members).map (·.1)
    = if name ∈ members.map (·.1) then members.map (·.1) else members.map (·.1) ++ [name] := by
  induction members with
  | nil => rfl
  | cons m rest ih =>
    unfold setMember
    split
    · rename_i hname
      simp [hname]
    · rename_i hname
      rw [List.map_cons, ih]
      by_cases hrest : name ∈ rest.map (·.1)
      · simp [hrest]
      · simp [hrest, Ne.symm hname]

theorem nodup_setMember (h : (members.map (·.1)).Nodup) :
    ((setMember name value members).map (·.1)).Nodup := by
  rw [map_fst_setMember]
  split
  · exact h
  · rename_i hnew
    have hfirst : ([name] ++ members.map (·.1)).Nodup := List.nodup_cons.2 ⟨hnew, h⟩
    exact List.nodup_append_comm.1 hfirst

theorem mem_setMember_iff (h : (members.map (·.1)).Nodup) {m : String × Json} :
    m ∈ setMember name value members ↔ m = (name, value) ∨ m ∈ members ∧ m.1 ≠ name := by
  induction members with
  | nil => simp [setMember]
  | cons m' rest ih =>
    obtain ⟨hnew, hrest⟩ := List.nodup_cons.1 h
    unfold setMember
    split
    · rename_i hname
      -- Of the members only the first has the name, so the rest may stay as it is.
      have hother : ∀ m ∈ rest, m.1 ≠ name := by
        intro m hm heq
        exact hnew (List.mem_map.2 ⟨m, hm, heq.trans hname.symm⟩)
      rw [List.mem_cons, List.mem_cons]
      constructor
      · rintro (rfl | hm)
        · exact .inl rfl
        · exact .inr ⟨.inr hm, hother m hm⟩
      · rintro (rfl | ⟨rfl | hm, hne⟩)
        · exact .inl rfl
        · exact absurd hname hne
        · exact .inr hm
    · rename_i hname
      rw [List.mem_cons, ih hrest, List.mem_cons]
      constructor
      · rintro (rfl | rfl | ⟨hm, hne⟩)
        · exact .inr ⟨.inl rfl, hname⟩
        · exact .inl rfl
        · exact .inr ⟨.inr hm, hne⟩
      · rintro (rfl | ⟨rfl | hm, hne⟩)
        · exact .inr (.inl rfl)
        · exact .inl rfl
        · exact .inr (.inr ⟨hm, hne⟩)

theorem member?_setMember (h : (members.map (·.1)).Nodup) :
    (obj (setMember name value members)).member? name = some value := by
  rw [member?_eq_some_iff (nodup_setMember h), mem_setMember_iff h]
  exact .inl rfl

theorem member?_setMember_of_ne (h : (members.map (·.1)).Nodup) {other : String}
    (hne : other ≠ name) :
    (obj (setMember name value members)).member? other = (obj members).member? other := by
  ext value'
  rw [member?_eq_some_iff (nodup_setMember h), mem_setMember_iff h, member?_eq_some_iff h]
  simp [hne]

theorem lookup_cons_eq_ite {m : String × Json} {rest : List (String × Json)} :
    (m :: rest).lookup name = if name = m.1 then some m.2 else rest.lookup name := by
  rw [List.lookup_cons]
  by_cases h : name = m.1
  · rw [if_pos h, beq_iff_eq.2 h]
  · rw [if_neg h, beq_false_of_ne h]

theorem setMember_cons {m : String × Json} {rest : List (String × Json)} :
    setMember name value (m :: rest)
      = if m.1 = name then (name, value) :: rest else m :: setMember name value rest := rfl

theorem lookup_setMember {other : String} : (setMember name value members).lookup other
    = if other = name then some value else members.lookup other := by
  induction members with
  | nil => exact lookup_cons_eq_ite
  | cons m rest ih =>
    rw [setMember_cons]
    split
    · rename_i hname
      rw [lookup_cons_eq_ite, lookup_cons_eq_ite, hname]
      split <;> rfl
    · rename_i hname
      rw [lookup_cons_eq_ite, lookup_cons_eq_ite, ih]
      by_cases h : other = name
      · rw [if_neg (h ▸ Ne.symm hname), if_pos h, if_pos h]
      · rw [if_neg h, if_neg h]

end

/-! ## Sorting -/

/-- A member is put among the later ones, unless one of them has its name. -/
theorem sortedMembers_cons_cases (name : String) (value : Json) (rest : List (String × Json)) :
    sortedMembers ((name, value) :: rest) = sortedMembers rest ∨
      name ∉ (sortedMembers rest).map (·.1) ∧
        (sortedMembers ((name, value) :: rest)).Perm
          ((name, sorted value) :: sortedMembers rest) := by
  rw [sortedMembers]
  split
  · exact .inl rfl
  · rename_i hnew
    refine .inr ⟨fun hmem => hnew ?_, List.perm_middle.trans ?_⟩
    · obtain ⟨m, hm, rfl⟩ := List.mem_map.1 hmem
      exact List.any_eq_true.2 ⟨m, hm, beq_self_eq_true m.1⟩
    · rw [List.takeWhile_append_dropWhile]

theorem nodup_sortedMembers (members : List (String × Json)) :
    ((sortedMembers members).map (·.1)).Nodup := by
  induction members with
  | nil => exact List.nodup_nil
  | cons m rest ih =>
    obtain ⟨name, value⟩ := m
    obtain hsame | ⟨hnew, hperm⟩ := sortedMembers_cons_cases name value rest
    · rwa [hsame]
    · rw [(hperm.map (·.1)).nodup_iff]
      exact List.nodup_cons.2 ⟨hnew, ih⟩

mutual

/-- A sorted document repeats no name. -/
theorem namesOnce_sorted : (j : Json) → j.sorted.NamesOnce
  | .arr items => namesOnce_sortedItems items
  | .obj members => ⟨nodup_sortedMembers members, namesOnce_sortedMembers members⟩
  | .null => trivial
  | .bool _ => trivial
  | .num _ => trivial
  | .str _ => trivial
  | .unreadable => trivial

theorem namesOnce_sortedItems : (items : List Json) → ItemsNameOnce (sortedItems items)
  | [] => trivial
  | item :: rest => ⟨namesOnce_sorted item, namesOnce_sortedItems rest⟩

theorem namesOnce_sortedMembers :
    (members : List (String × Json)) → MembersNameOnce (sortedMembers members)
  | [] => trivial
  | (name, value) :: rest => by
    obtain hsame | ⟨-, hperm⟩ := sortedMembers_cons_cases name value rest
    · rw [hsame]
      exact namesOnce_sortedMembers rest
    · have hrest := membersNameOnce_iff.1 (namesOnce_sortedMembers rest)
      refine membersNameOnce_iff.2 fun m hm => ?_
      obtain rfl | hm := List.mem_cons.1 (hperm.mem_iff.1 hm)
      · exact namesOnce_sorted value
      · exact hrest m hm

end

end SeedCleanup.Json

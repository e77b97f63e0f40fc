import SeedCleanup.Config.Environment
import SeedCleanup.Json.Decoder
import SeedCleanup.Proofs.MemberTheorems

/-!
# Values laid over documents

To lay a value over a table at the end of a path sets one member of the table
(`Environment.overlay_nest_cons`), and what is read of a record rests only on the members that it
has names for (`Json.Dialect.record?_congr`). `Overrides` says how a table is read after a value was
laid over it: a value under an unknown name is lost (`Json.Dialect.ReadsRecord.overrides`), and one
under the name of a field replaces the part that is read from this field
(`overrides_of_readsPart`), which may be a table itself (`Overrides.inPart`).
-/

namespace SeedCleanup

/-! ## Members that a record has names for -/

namespace Json

variable {members members' : List (String × Json)} {name other : String} {value : Json}
  {names : List String}

/-- The members of which the names are known. -/
def known (names : List String) (members : List (String × Json)) : List (String × Json) :=
  members.filter fun m => names.contains m.1

theorem known_cons {m : String × Json} {rest : List (String × Json)} :
    known names (m :: rest) = if m.1 ∈ names then m :: known names rest else known names rest := by
  simp [known, List.filter_cons]

theorem lookup_known (h : name ∈ names) :
    (known names members).lookup name = members.lookup name := by
  induction members with
  | nil => rfl
  | cons m rest ih =>
    rw [known_cons, lookup_cons_eq_ite]
    split
    · rw [lookup_cons_eq_ite, ih]
    · rename_i hm
      rw [if_neg (show name ≠ m.1 from fun heq => hm (heq ▸ h)), ih]

theorem known_setMember (h : name ∈ names) :
    known names (setMember name value members) = setMember name value (known names members) := by
  induction members with
  | nil => exact known_cons.trans (if_pos h)
  | cons m rest ih =>
    rw [setMember_cons]
    by_cases hname : m.1 = name
    · rw [if_pos hname, known_cons, known_cons, if_pos h, if_pos (hname ▸ h), setMember_cons,
        if_pos hname]
    · rw [if_neg hname, known_cons, known_cons, ih]
      by_cases hm : m.1 ∈ names
      · rw [if_pos hm, if_pos hm, setMember_cons, if_neg hname]
      · rw [if_neg hm, if_neg hm]

theorem known_setMember_of_notMem (h : name ∉ names) :
    known names (setMember name value members) = known names members := by
  induction members with
  | nil => exact known_cons.trans (if_neg h)
  | cons m rest ih =>
    rw [setMember_cons]
    by_cases hname : m.1 = name
    · rw [if_pos hname, known_cons, known_cons, if_neg h, if_neg (hname ▸ h)]
    · rw [if_neg hname, known_cons, known_cons, ih]

namespace Dialect

variable {d : Dialect} {r : Record}

/-- What a record is read as rests only on the members that it has names for. -/
theorem record?_congr (h : known names members = known names members') :
    d.record? names (.obj members) = d.record? names (.obj members') := by
  have hfilter : members.filter (fun m => names.contains m.1)
      = members'.filter (fun m => names.contains m.1) := h
  rw [record?, record?, hfilter]

theorem record?_eq_some_iff :
    d.record? names (.obj members) = some r
      ↔ ((known names members).map (·.1)).Nodup ∧ known names members = r := by
  simp [record?, known]

theorem record?_setMember (h : name ∈ names) (hr : d.record? names (.obj members) = some r) :
    d.record? names (.obj (setMember name value members)) = some (setMember name value r) := by
  obtain ⟨hnodup, rfl⟩ := record?_eq_some_iff.1 hr
  rw [record?_eq_some_iff, known_setMember h]
  exact ⟨nodup_setMember hnodup, rfl⟩

end Dialect

namespace Record

variable {α : Type} {r : Record} {a : α} {decode : Json → Option α}

theorem withDefault_setMember :
    Record.withDefault (setMember name value r) name a decode = decode value := by
  rw [withDefault, lookup_setMember, if_pos rfl]

theorem withDefault_setMember_of_ne (h : other ≠ name) :
    Record.withDefault (setMember name value r) other a decode = r.withDefault other a decode := by
  rw [withDefault, lookup_setMember, if_neg h, withDefault]

theorem required_setMember :
    Record.required (setMember name value r) name decode = decode value := by
  rw [required, lookup_setMember, if_pos rfl, Option.bind_some]

theorem required_setMember_of_ne (h : other ≠ name) :
    Record.required (setMember name value r) other decode = r.required other decode := by
  rw [required, lookup_setMember, if_neg h, required]

/-! ### Parts that are read from one field -/

/-- What is made of the fields of a record has a part that is read from one field, and the other
fields make the rest of it. -/
structure Reads {α β : Type} (name : String) (read : Record → Option β) (part : α → β)
    (set : β → α → α) (finish : Record → Option α) : Prop where
  read_eq : ∀ ⦃r a⦄, finish r = some a → read r = some (part a)
  finish_setMember : ∀ ⦃r a⦄, finish r = some a → ∀ value,
    finish (setMember name value r) = (read (setMember name value r)).map fun b => set b a

/-- What is made of a part and the other fields of a record. -/
def Completes {α β : Type} (name : String) (part : α → β) (set : β → α → α)
    (rest : β → Record → Option α) : Prop :=
  ∀ ⦃b r a⦄, rest b r = some a → part a = b ∧
    ∀ b' value, rest b' (setMember name value r) = some (set b' a)

section

variable {α β γ : Type} {read : Record → Option β} {part : α → β} {set : β → α → α}

theorem completes_some {make : β → α} (hpart : ∀ b, part (make b) = b)
    (hset : ∀ b b', set b' (make b) = make b') :
    Completes name part set fun b _ => some (make b) := by
  rintro b r _ ⟨⟩
  exact ⟨hpart b, fun b' value => congrArg some (hset b b').symm⟩

theorem Completes.bind {field : Record → Option γ} {rest : β → γ → Record → Option α}
    (hfield : ∀ r value, field (setMember name value r) = field r)
    (h : ∀ c, Completes name part set fun b => rest b c) :
    Completes name part set fun b r => (field r).bind fun c => rest b c r := by
  intro b r a ha
  obtain ⟨c, hc, ha⟩ := Option.bind_eq_some_iff.1 ha
  obtain ⟨hpart, hset⟩ := h c ha
  refine ⟨hpart, fun b' value => ?_⟩
  beta_reduce
  rw [hfield, hc]
  exact hset b' value

/-- Behind the part, another field may be read that may be missing. -/
theorem Completes.past {usual : γ} {decode : Json → Option γ} {rest : β → γ → Record → Option α}
    (hother : other ≠ name) (h : ∀ c, Completes name part set fun b => rest b c) :
    Completes name part set fun b r =>
      (r.withDefault other usual decode).bind fun c => rest b c r :=
  .bind (fun _ _ => withDefault_setMember_of_ne hother) h

/-- Behind the part, another field may be read that must be given. -/
theorem Completes.pastRequired {decode : Json → Option γ} {rest : β → γ → Record → Option α}
    (hother : other ≠ name) (h : ∀ c, Completes name part set fun b => rest b c) :
    Completes name part set fun b r => (r.required other decode).bind fun c => rest b c r :=
  .bind (fun _ _ => required_setMember_of_ne hother) h

theorem Reads.here {rest : β → Record → Option α} (h : Completes name part set rest) :
    Reads name read part set fun r => (read r).bind fun b => rest b r where
  read_eq r a ha := by
    obtain ⟨b, hb, ha⟩ := Option.bind_eq_some_iff.1 ha
    rw [hb, (h ha).1]
  finish_setMember r a ha value := by
    obtain ⟨b, -, ha⟩ := Option.bind_eq_some_iff.1 ha
    cases read (setMember name value r) with
    | none => rfl
    | some b' => exact (h ha).2 b' value

/-- In front of the part, another field may be read. -/
theorem Reads.past {usual : γ} {decode : Json → Option γ} {rest : γ → Record → Option α}
    (hother : other ≠ name) (h : ∀ c, Reads name read part set (rest c)) :
    Reads name read part set fun r =>
      (r.withDefault other usual decode).bind fun c => rest c r where
  read_eq r a ha := by
    obtain ⟨c, -, ha⟩ := Option.bind_eq_some_iff.1 ha
    exact (h c).read_eq ha
  finish_setMember r a ha value := by
    obtain ⟨c, hc, ha⟩ := Option.bind_eq_some_iff.1 ha
    rw [withDefault_setMember_of_ne hother, hc]
    exact (h c).finish_setMember ha value

end

end Record

end Json

/-! ## Values laid over a document -/

namespace Environment

open SeedCleanup.Json

variable {members old : List (String × Json)} {name : String} {path : List String} {value : Json}
  {names : List String}

/-- A value laid over what is there, if something is. -/
def layer : Option Json → Json → Json
  | none, above => above
  | some below, above => overlay below above

theorem overlayMembers_cons {m : String × Json} {rest : List (String × Json)} :
    overlayMembers old (m :: rest)
      = overlayMembers (setMember m.1 (layer (old.lookup m.1) m.2) old) rest := by
  rw [overlayMembers]
  cases old.lookup m.1 <;> rfl

/-- To lay a value over a table at the end of a path sets the first member on the path. -/
theorem overlay_nest_cons :
    overlay (.obj members) (nest (name :: path) value)
      = .obj (setMember name (layer (members.lookup name) (nest path value)) members) := by
  rw [nest, List.foldr_cons, overlay, overlayMembers_cons, overlayMembers]
  rfl

/-- Of tables that are joined, the members with known names rest on those alone. -/
theorem known_overlayMembers :
    known names (overlayMembers old members)
      = overlayMembers (known names old) (known names members) := by
  induction members generalizing old with
  | nil => rfl
  | cons m rest ih =>
    rw [overlayMembers_cons, ih, known_cons]
    split
    · rename_i hm
      rw [known_setMember hm, overlayMembers_cons, lookup_known hm]
    · rename_i hm
      rw [known_setMember_of_notMem hm]

/-! ## What variables set -/

/-- A document with what a variable sets laid over it. -/
def withVariable (j : Json) (v : String × String) : Json :=
  match path? v.1 with
  | none => j
  | some path => overlay j (nest path (valueOf v.2))

theorem settings_eq_foldl (vars : Variables) :
    settings vars = vars.foldl withVariable (.obj []) := rfl

theorem withVariable_of_path?_eq {v : String × String} (h : path? v.1 = some (name :: path)) :
    withVariable (.obj members) v
      = .obj (setMember name (layer (members.lookup name) (nest path (valueOf v.2))) members) := by
  rw [withVariable, h]
  exact overlay_nest_cons

/-- A variable leads to no member with a known name. -/
def PassesBy (names : List String) (v : String × String) : Prop :=
  ∀ path, path? v.1 = some path → ∃ first rest, path = first :: rest ∧ first ∉ names

theorem exists_foldl_of_passesBy {vars : Variables} (h : ∀ v ∈ vars, PassesBy names v) :
    ∃ members', vars.foldl withVariable (.obj members) = .obj members' ∧
      known names members' = known names members := by
  induction vars generalizing members with
  | nil => exact ⟨members, rfl, rfl⟩
  | cons v vars ih =>
    obtain ⟨hv, hvars⟩ := List.forall_mem_cons.1 h
    rw [List.foldl_cons]
    cases hpath : path? v.1 with
    | none =>
      rw [withVariable, hpath]
      exact ih hvars
    | some path =>
      obtain ⟨first, rest, rfl, hfirst⟩ := hv path hpath
      rw [withVariable_of_path?_eq hpath]
      obtain ⟨members', hmembers', hknown⟩ := ih hvars
      rw [known_setMember_of_notMem hfirst] at hknown
      exact ⟨members', hmembers', hknown⟩

/-- Among variables that lead to no known member there is one that may, and nothing else is set. -/
theorem exists_settings {before after : Variables} {v : String × String} {first : String}
    (hbefore : ∀ w ∈ before, PassesBy names w) (hafter : ∀ w ∈ after, PassesBy names w)
    (hpath : path? v.1 = some (first :: path)) :
    ∃ members, settings (before ++ v :: after) = .obj members ∧
      known names members = known names [(first, nest path (valueOf v.2))] := by
  obtain ⟨earlier, hearlier, hnone⟩ :
      ∃ earlier, before.foldl withVariable (.obj []) = .obj earlier ∧ known names earlier = [] :=
    exists_foldl_of_passesBy hbefore
  rw [settings_eq_foldl, List.foldl_append, List.foldl_cons, hearlier,
    withVariable_of_path?_eq hpath]
  obtain ⟨members, hmembers, hknown⟩ := exists_foldl_of_passesBy hafter
  refine ⟨members, hmembers, hknown.trans ?_⟩
  by_cases hname : first ∈ names
  · rw [known_setMember hname, ← lookup_known hname, hnone, known_cons, if_pos hname]
    rfl
  · rw [known_setMember_of_notMem hname, hnone, known_cons, if_neg hname]
    rfl

end Environment

/-! ## Reading tables after something was laid over them -/

open Json Environment

section

variable {α : Type} {d : Json.Dialect} {decode : Json → Option α} {names tables path : List String}
  {name first : String} {value : Json} {members : List (String × Json)} {r : Json.Record}
  {a usual : α} {put : α → Option α}

/-- No array stands for a table on a path. -/
def Json.TablesOn : List String → Json → Prop
  | _, .arr _ => False
  | name :: rest, .obj members => ∀ j, members.lookup name = some j → j.TablesOn rest
  | _, _ => True

theorem not_tablesOn_arr {items : List Json} : ¬(Json.arr items).TablesOn tables := by
  cases tables <;> exact id

theorem tablesOn_empty : (Json.obj []).TablesOn tables := by
  cases tables with
  | nil => trivial
  | cons name rest => intro j hj; exact nomatch hj

/-- What is read from a document is made of the fields of a record. -/
def Json.Dialect.ReadsRecord (d : Json.Dialect) (names : List String) (decode : Json → Option α) :
    Prop :=
  ∃ finish : Json.Record → Option α, ∀ j, decode j = (d.record? names j).bind finish

/-- What is read from a document is made of the fields of a record, and one field alone is read as a
part of it. -/
def Json.Dialect.ReadsPart {β : Type} (d : Json.Dialect) (names : List String)
    (decode : Json → Option α) (name : String) (read : Json.Record → Option β) (part : α → β)
    (set : β → α → α) : Prop :=
  name ∈ names ∧ ∃ finish, (∀ j, decode j = (d.record? names j).bind finish) ∧
    Record.Reads name read part set finish

/-- To lay a value over a table at the end of a path makes the table read as `put` says. -/
def Overrides (decode : Json → Option α) (tables path : List String) (value : Json)
    (put : α → Option α) : Prop :=
  ∀ ⦃members a⦄, decode (.obj members) = some a → (Json.obj members).TablesOn tables →
    decode (overlay (.obj members) (nest path value)) = put a

/-- A value that leads to a member without a known name is lost. -/
theorem Json.Dialect.ReadsRecord.overrides (h : d.ReadsRecord names decode)
    (hfirst : first ∉ names) : Overrides decode tables (first :: path) value some := by
  obtain ⟨finish, hfinish⟩ := h
  intro members a ha _
  rw [← ha, hfinish, hfinish, overlay_nest_cons,
    Dialect.record?_congr (known_setMember_of_notMem hfirst)]

theorem Json.Dialect.ReadsRecord.eq_obj_or_arr (h : d.ReadsRecord names decode) {j : Json}
    (hj : decode j = some a) : (∃ members, j = .obj members) ∨ ∃ items, j = .arr items := by
  obtain ⟨finish, hfinish⟩ := h
  rw [hfinish] at hj
  cases j with
  | obj members => exact .inl ⟨members, rfl⟩
  | arr items => exact .inr ⟨items, rfl⟩
  | _ => exact nomatch hj

/-- A table of which a known member is set is read as the fields of the table with that one set. -/
theorem record?_overlay (hname : name ∈ names) (hr : d.record? names (.obj members) = some r) :
    d.record? names (overlay (.obj members) (nest (name :: path) value))
      = some (setMember name (layer (r.lookup name) (nest path value)) r) := by
  rw [overlay_nest_cons, Dialect.record?_setMember hname hr,
    ← (Dialect.record?_eq_some_iff.1 hr).2, lookup_known hname]

theorem tablesOn_of_record? (hr : d.record? names (.obj members) = some r) (hname : name ∈ names)
    (h : (Json.obj members).TablesOn (name :: tables)) {j : Json} (hj : r.lookup name = some j) :
    j.TablesOn tables := by
  rw [← (Dialect.record?_eq_some_iff.1 hr).2, lookup_known hname] at hj
  exact h j hj

/-- What is laid over anything but a table replaces it. -/
theorem layer_of_decode_eq (hobj : ∀ members, decode (.obj members) = none) {below? : Option Json}
    (h : ∀ j, below? = some j → decode j ≠ none) : layer below? value = value := by
  obtain _ | j := below?
  · rfl
  · -- Only two tables are joined, and a table is not what was read here.
    have hj : ∀ members, j ≠ .obj members := fun members heq => h j rfl (heq ▸ hobj members)
    cases value with
    | obj members =>
      cases j with
      | obj members' => exact absurd rfl (hj members')
      | _ => rfl
    | _ => rw [layer, overlay]; simp

/-- A field that was given a value before is read from the value laid over it. -/
theorem withDefault_layer (hobj : ∀ members, decode (.obj members) = none)
    (h : r.withDefault name usual decode = some a) :
    Record.withDefault (setMember name (layer (r.lookup name) (nest [] value)) r) name usual decode
      = decode value := by
  rw [Record.withDefault_setMember]
  refine congrArg decode (layer_of_decode_eq hobj fun j hj => ?_)
  rw [Record.withDefault, hj] at h
  exact Option.ne_none_iff_exists'.2 ⟨a, h⟩

theorem required_layer (hobj : ∀ members, decode (.obj members) = none)
    (h : r.required name decode = some a) :
    Record.required (setMember name (layer (r.lookup name) (nest [] value)) r) name decode
      = decode value := by
  rw [Record.required_setMember]
  refine congrArg decode (layer_of_decode_eq hobj fun j hj => ?_)
  rw [Record.required, hj] at h
  exact Option.ne_none_iff_exists'.2 ⟨a, h⟩

/-- A table that may be missing is read as `put` says when something is laid over it. -/
theorem Overrides.layer (hput : Overrides decode tables (first :: path) value put)
    (hrecord : d.ReadsRecord names decode) (husual : decode (.obj []) = some usual)
    (ha : r.withDefault name usual decode = some a)
    (htables : ∀ j, r.lookup name = some j → j.TablesOn tables) :
    decode (layer (r.lookup name) (nest (first :: path) value)) = put a := by
  rw [Record.withDefault] at ha
  cases hj : r.lookup name with
  | none =>
    rw [hj] at ha
    obtain rfl := Option.some.inj ha
    exact hput husual tablesOn_empty
  | some j =>
    rw [hj] at ha
    obtain ⟨members, rfl⟩ | ⟨items, rfl⟩ := hrecord.eq_obj_or_arr ha
    · exact hput ha (htables _ hj)
    · exact (not_tablesOn_arr (htables _ hj)).elim

/-- A library is read as `put` says when something is laid over it that is no library alone. -/
theorem Overrides.option?_layer (hput : Overrides decode tables (first :: path) value put)
    (hrecord : d.ReadsRecord names decode) (halone : decode (nest (first :: path) value) = none)
    {a? : Option α} (ha : r.withDefault name none (option? decode) = some a?)
    (htables : ∀ j, r.lookup name = some j → j.TablesOn tables) :
    option? decode (Environment.layer (r.lookup name) (nest (first :: path) value))
      = (a?.bind put).map some := by
  have hnone : option? decode (nest (first :: path) value) = none := by
    have hmap : option? decode (nest (first :: path) value)
        = (decode (nest (first :: path) value)).map some := rfl
    rw [hmap, halone, Option.map_none]
  rw [Record.withDefault] at ha
  cases hj : r.lookup name with
  | none =>
    rw [hj] at ha
    obtain rfl := Option.some.inj ha
    exact hnone
  | some j =>
    rw [hj] at ha
    cases j with
    | null =>
      obtain rfl := Option.some.inj ha
      exact hnone
    | obj members =>
      obtain ⟨a, hmembers, rfl⟩ := Option.map_eq_some_iff.1 ha
      have hlayer : option? decode (Environment.layer (some (.obj members))
          (nest (first :: path) value))
            = (decode (overlay (.obj members) (nest (first :: path) value))).map some := by
        rw [Environment.layer, overlay_nest_cons]
        rfl
      rw [hlayer, hput hmembers (htables _ hj), Option.bind_some]
    | arr items => exact (not_tablesOn_arr (htables _ hj)).elim
    | _ =>
      obtain ⟨a, hdecode, -⟩ := Option.map_eq_some_iff.1 ha
      obtain ⟨members, hmembers⟩ | ⟨items, hitems⟩ := hrecord.eq_obj_or_arr hdecode
      · exact nomatch hmembers
      · exact nomatch hitems

/-! ### Parts of tables -/

section

variable {β : Type} {whole : Json → Option β} {read : Json.Record → Option α} {part : β → α}
  {set : α → β → β}

/-- Where a field is read as `put` says after a value was laid over it, the part is replaced that is
read from it. -/
theorem overrides_of_readsPart (h : d.ReadsPart names whole name read part set)
    (hread : ∀ ⦃members r a⦄, d.record? names (.obj members) = some r →
      (Json.obj members).TablesOn tables → read r = some a →
        read (setMember name (layer (r.lookup name) (nest path value)) r) = put a) :
    Overrides whole tables (name :: path) value fun b => (put (part b)).map fun a => set a b := by
  obtain ⟨hname, finish, hwhole, hreads⟩ := h
  intro members b hb htables
  rw [hwhole] at hb
  obtain ⟨r, hr, hb⟩ := Option.bind_eq_some_iff.1 hb
  rw [hwhole, record?_overlay hname hr, Option.bind_some, hreads.finish_setMember hb,
    hread hr htables (hreads.read_eq hb)]

theorem overrides_withDefault
    (h : d.ReadsPart names whole name (·.withDefault name usual decode) part set)
    (hobj : ∀ members, decode (.obj members) = none) :
    Overrides whole tables [name] value fun b => (decode value).map fun a => set a b :=
  overrides_of_readsPart h fun _ _ _ _ _ ha => withDefault_layer hobj ha

theorem overrides_required (h : d.ReadsPart names whole name (·.required name decode) part set)
    (hobj : ∀ members, decode (.obj members) = none) :
    Overrides whole tables [name] value fun b => (decode value).map fun a => set a b :=
  overrides_of_readsPart h fun _ _ _ _ _ ha => required_layer hobj ha

/-- A part that is a table of its own is read as `put` says when something is laid over it. -/
theorem Overrides.inPart (hput : Overrides decode tables (first :: path) value put)
    {names' : List String} (hrecord : d.ReadsRecord names' decode)
    (husual : decode (.obj []) = some usual)
    (h : d.ReadsPart names whole name (·.withDefault name usual decode) part set) :
    Overrides whole (name :: tables) (name :: first :: path) value
      fun b => (put (part b)).map fun a => set a b :=
  overrides_of_readsPart h fun _ _ _ hr htables ha =>
    Record.withDefault_setMember.trans (hput.layer hrecord husual ha fun _ =>
      tablesOn_of_record? hr h.1 htables)

/-- Also a part that may be missing is read as `put` says, unless there is none. -/
theorem Overrides.inOption (hput : Overrides decode tables (first :: path) value put)
    {names' : List String} (hrecord : d.ReadsRecord names' decode)
    (halone : decode (nest (first :: path) value) = none) {part : β → Option α}
    {set : Option α → β → β}
    (h : d.ReadsPart names whole name (·.withDefault name none (option? decode)) part set) :
    Overrides whole (name :: tables) (name :: first :: path) value
      fun b => (((part b).bind put).map some).map fun a? => set a? b := by
  have hread : ∀ ⦃members r a?⦄, d.record? names (.obj members) = some r →
      (Json.obj members).TablesOn (name :: tables) →
        Record.withDefault r name none (option? decode) = some a? →
          Record.withDefault
              (setMember name (Environment.layer (r.lookup name) (nest (first :: path) value)) r)
              name none (option? decode)
            = (fun a? : Option α => (a?.bind put).map some) a? := by
    intro members r a? hr htables ha
    rw [Record.withDefault_setMember]
    exact hput.option?_layer hrecord halone ha fun _ => tablesOn_of_record? hr h.1 htables
  have hoverrides := overrides_of_readsPart h hread
  exact hoverrides

end

end

end SeedCleanup

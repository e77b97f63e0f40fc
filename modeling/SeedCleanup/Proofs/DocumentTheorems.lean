import SeedCleanup.Json.Reader
import SeedCleanup.Proofs.NumeralTheorems
import SeedCleanup.Proofs.QuotedTheorems

/-!
# Documents that are read back

A document that was written is read as that document (`parse_text`), provided that the numerals of
its numbers are. Its text is cut into the tokens of the document (`cutInto_written`), and the
machine that builds documents makes it of these tokens again (`build_tokens`).
-/

namespace SeedCleanup.Json

open SeedCleanup.Text (isLetter)

/-- A document with no unreadable part, all numbers of which are read back. -/
inductive Faithful : Json → Prop
  | null : Faithful .null
  | bool (b : Bool) : Faithful (.bool b)
  | num {n : Number} (h : n.ReadsBack) : Faithful (.num n)
  | str (s : String) : Faithful (.str s)
  | arr {items : List Json} (h : ∀ item ∈ items, Faithful item) : Faithful (.arr items)
  | obj {members : List (String × Json)} (h : ∀ m ∈ members, Faithful m.2) :
    Faithful (.obj members)

/-! ## The tokens of a document -/

mutual

/-- The tokens that a document is written with. -/
def tokens : Json → List Token
  | .null => [.null]
  | .bool b => [.bool b]
  | .num n => [.num (some n)]
  | .str s => [.str (some s)]
  | .arr items => .openItems :: (tokensOfItems items ++ [.closeItems])
  | .obj members => .openMembers :: (tokensOfMembers members ++ [.closeMembers])
  | .unreadable => [.null]

/-- The tokens of the items of an array. -/
def tokensOfItems : List Json → List Token
  | [] => []
  | [item] => tokens item
  | item :: rest => tokens item ++ .comma :: tokensOfItems rest

/-- The tokens of the members of an object. -/
def tokensOfMembers : List (String × Json) → List Token
  | [] => []
  | [(name, value)] => .str (some name) :: .colon :: tokens value
  | (name, value) :: rest =>
    .str (some name) :: .colon :: (tokens value ++ .comma :: tokensOfMembers rest)

end

/-! ## From characters to tokens -/

namespace Token

/-- The text is cut into the tokens, the last of which may be waiting for its end. -/
def CutInto (text : List Char) (tokens : List Token) : Prop :=
  ∀ earlier, ∃ s, scan ⟨earlier, .between⟩ text = some s ∧
    complete s = some (tokens.reverse ++ earlier)

/-- The text is cut into the tokens, and the last of them has ended. -/
def EndsWith (text : List Char) (tokens : List Token) : Prop :=
  ∀ earlier, scan ⟨earlier, .between⟩ text = some ⟨tokens.reverse ++ earlier, .between⟩

/-- A token of one character that no word or numeral goes on with. -/
inductive Mark : Char → Token → Prop
  | comma : Mark ',' .comma
  | closeItems : Mark ']' .closeItems
  | closeMembers : Mark '\x7d' .closeMembers

variable {text text' : List Char} {tokens tokens' : List Token}

theorem EndsWith.cutInto (h : EndsWith text tokens) : CutInto text tokens :=
  fun earlier => ⟨_, h earlier, rfl⟩

theorem endsWith_nil : EndsWith [] [] := fun _ => rfl

theorem EndsWith.append (h : EndsWith text tokens) (h' : EndsWith text' tokens') :
    EndsWith (text ++ text') (tokens ++ tokens') := by
  intro earlier
  rw [scan_append, h earlier, Option.bind_some, h', List.reverse_append, List.append_assoc]

theorem EndsWith.append_cutInto (h : EndsWith text tokens) (h' : CutInto text' tokens') :
    CutInto (text ++ text') (tokens ++ tokens') := by
  intro earlier
  obtain ⟨s, hscan, hcomplete⟩ := h' (tokens.reverse ++ earlier)
  refine ⟨s, ?_, ?_⟩
  · rw [scan_append, h earlier, Option.bind_some, hscan]
  · rw [hcomplete, List.reverse_append, List.append_assoc]

/-- A mark ends what was begun before it. -/
theorem Mark.scanChar_eq {c : Char} {t : Token} (hmark : Mark c t) {s : Scanned}
    (h : complete s = some tokens) : scanChar s c = some ⟨t :: tokens, .between⟩ := by
  obtain ⟨earlier, begun⟩ := s
  have hbegin : begin tokens c = some ⟨t :: tokens, .between⟩ := by cases hmark <;> rfl
  have hletter : isLetter c = false := by cases hmark <;> rfl
  have hnumeral : isNumeralChar c = false := by cases hmark <;> rfl
  cases begun with
  | between =>
    obtain rfl := Option.some.inj h
    exact hbegin
  | word read =>
    show (if isLetter c = true then _ else (complete ⟨earlier, .word read⟩).bind (begin · c)) = _
    rw [if_neg (by rw [hletter]; exact Bool.false_ne_true), h]
    exact hbegin
  | numeral read =>
    show (if isNumeralChar c = true then _
      else (complete ⟨earlier, .numeral read⟩).bind (begin · c)) = _
    rw [if_neg (by rw [hnumeral]; exact Bool.false_ne_true), h]
    exact hbegin
  | text read => exact nomatch h
  | escape read => exact nomatch h

theorem CutInto.append_mark {c : Char} {t : Token} (h : CutInto text tokens) (hmark : Mark c t) :
    EndsWith (text ++ [c]) (tokens ++ [t]) := by
  intro earlier
  obtain ⟨s, hscan, hcomplete⟩ := h earlier
  rw [scan_append, hscan, Option.bind_some, scan_cons, hmark.scanChar_eq hcomplete,
    List.reverse_append]
  rfl

/-! ### Numerals -/

theorem scan_numeral {read : List Char} {earlier : List Token} (h : ∀ c ∈ text, isNumeralChar c) :
    scan ⟨earlier, .numeral read⟩ text = some ⟨earlier, .numeral (text.reverse ++ read)⟩ := by
  induction text generalizing read with
  | nil => rfl
  | cons c rest ih =>
    obtain ⟨hc, hrest⟩ := List.forall_mem_cons.1 h
    have hstep : scanChar ⟨earlier, .numeral read⟩ c = some ⟨earlier, .numeral (c :: read)⟩ :=
      if_pos hc
    rw [scan_cons, hstep, Option.bind_some, ih hrest, List.reverse_cons, List.append_assoc]
    rfl

theorem begin_numeral {c : Char} (h : (c == '-' || c.isDigit) = true) (earlier : List Token) :
    begin earlier c = some ⟨earlier, .numeral [c]⟩ := by
  unfold begin
  split
  case h_12 => exact if_pos h
  -- no other character that begins a token begins a numeral
  all_goals exact absurd h (by decide)

theorem cutInto_writtenNumber {n : Number} (h : n.ReadsBack) :
    CutInto (writtenNumber n) [.num (some n)] := by
  obtain ⟨p, hparts, hvalue⟩ := Option.bind_eq_some_iff.1 h
  have hstarts := Numeral.startsNumeral_of_parts? hparts
  intro earlier
  generalize writtenNumber n = numeral at hparts hstarts
  match numeral with
  | [] => exact hstarts.elim
  | c :: rest =>
    obtain ⟨hc, hrest⟩ := hstarts
    have hbegin : scanChar ⟨earlier, .between⟩ c = some ⟨earlier, .numeral [c]⟩ :=
      begin_numeral hc earlier
    refine ⟨⟨earlier, .numeral (rest.reverse ++ [c])⟩, ?_, ?_⟩
    · rw [scan_cons, hbegin, Option.bind_some, scan_numeral hrest]
    · show (ofNumeral? (rest.reverse ++ [c]).reverse).map _ = _
      rw [List.reverse_append, List.reverse_reverse]
      show (ofNumeral? (c :: rest)).map _ = _
      rw [ofNumeral?, hparts, Option.map_some, Option.map_some, hvalue]
      rfl

/-! ### Whole documents -/

theorem cutInto_writtenItems {items : List Json}
    (h : ∀ item ∈ items, CutInto (written item) item.tokens) :
    CutInto (writtenItems items) (tokensOfItems items) := by
  match items with
  | [] => exact endsWith_nil.cutInto
  | [item] => exact h item List.mem_cons_self
  | item :: next :: rest =>
    obtain ⟨hitem, hrest⟩ := List.forall_mem_cons.1 h
    have hfirst := hitem.append_mark .comma
    have hboth := hfirst.append_cutInto (cutInto_writtenItems hrest)
    rw [List.append_assoc, List.append_assoc] at hboth
    exact hboth

theorem endsWith_name (name : String) :
    EndsWith (writtenText name ++ [':']) [.str (some name), .colon] := by
  intro earlier
  rw [scan_append, scan_writtenText]
  rfl

theorem cutInto_writtenMembers {members : List (String × Json)}
    (h : ∀ m ∈ members, CutInto (written m.2) m.2.tokens) :
    CutInto (writtenMembers members) (tokensOfMembers members) := by
  match members with
  | [] => exact endsWith_nil.cutInto
  | [(name, value)] =>
    have hmember := (endsWith_name name).append_cutInto (h (name, value) List.mem_cons_self)
    rw [List.append_assoc] at hmember
    exact hmember
  | (name, value) :: next :: rest =>
    obtain ⟨hvalue, hrest⟩ := List.forall_mem_cons.1 h
    have hfirst := (endsWith_name name).append (hvalue.append_mark .comma)
    have hboth := hfirst.append_cutInto (cutInto_writtenMembers hrest)
    rw [writtenMembers, List.append_assoc]
    simp only [List.append_assoc, List.cons_append, List.nil_append] at hboth ⊢
    exact hboth
    exact fun hnil => nomatch hnil

theorem cutInto_written {j : Json} (h : j.Faithful) : CutInto (written j) j.tokens := by
  induction h with
  | null => exact fun earlier => ⟨_, rfl, rfl⟩
  | bool b => cases b <;> exact fun earlier => ⟨_, rfl, rfl⟩
  | num h => exact cutInto_writtenNumber h
  | str s => exact EndsWith.cutInto fun earlier => scan_writtenText earlier s
  | arr h ih =>
    have hopen : EndsWith ['['] [.openItems] := fun _ => rfl
    exact (hopen.append ((cutInto_writtenItems ih).append_mark .closeItems)).cutInto
  | obj h ih =>
    have hopen : EndsWith ['\x7b'] [.openMembers] := fun _ => rfl
    exact (hopen.append ((cutInto_writtenMembers ih).append_mark .closeMembers)).cutInto

theorem ofChars?_written {j : Json} (h : j.Faithful) : ofChars? (written j) = some j.tokens := by
  obtain ⟨s, hscan, hcomplete⟩ := cutInto_written h []
  have htokens : ofChars? (written j)
      = (scan ⟨[], .between⟩ (written j)).bind fun s =>
          (complete s).bind fun tokens => some tokens.reverse := rfl
  rw [htokens, hscan, Option.bind_some, hcomplete, Option.bind_some, List.append_nil,
    List.reverse_reverse]

end Token

/-! ## From tokens to documents -/

namespace Partial

/-- Take in tokens one after the other. -/
def build (p : Partial) (tokens : List Token) : Option Partial := tokens.foldlM step p

theorem build_cons (p : Partial) (t : Token) (tokens : List Token) :
    p.build (t :: tokens) = (p.step t).bind (·.build tokens) := rfl

theorem build_append (p : Partial) (a b : List Token) :
    p.build (a ++ b) = (p.build a).bind (·.build b) := List.foldlM_append

/-- A document begins with a token that does not close an array. -/
theorem exists_tokens_eq_cons (j : Json) : ∃ t rest, j.tokens = t :: rest ∧
    ∀ frames, step ⟨frames, .valueOrEnd⟩ t = step ⟨frames, .value⟩ t := by
  cases j <;> exact ⟨_, _, rfl, fun _ => rfl⟩

/-- What a document is built into: it is put where it belongs. -/
def Builds (j : Json) : Prop :=
  ∀ frames, build ⟨frames, .value⟩ j.tokens = some (put frames j)

theorem build_items {items : List Json} (h : ∀ item ∈ items, Builds item) (hne : items ≠ [])
    (read : List Json) (outer : List Frame) :
    build ⟨.items read :: outer, .value⟩ (tokensOfItems items)
      = some ⟨.items (items.reverse ++ read) :: outer, .commaOrEnd⟩ := by
  match items with
  | [] => exact absurd rfl hne
  | [item] => exact h item List.mem_cons_self _
  | item :: next :: rest =>
    obtain ⟨hitem, hrest⟩ := List.forall_mem_cons.1 h
    have hcomma (tokens : List Token) :
        build (put (.items read :: outer) item) (.comma :: tokens)
          = build ⟨.items (item :: read) :: outer, .value⟩ tokens := rfl
    rw [tokensOfItems, build_append, hitem, Option.bind_some, hcomma,
      build_items hrest (List.cons_ne_nil _ _), List.reverse_cons (a := item), List.append_assoc]
    · rfl
    · exact fun hnil => nomatch hnil

theorem builds_arr {items : List Json} (h : ∀ item ∈ items, Builds item) : Builds (.arr items) := by
  intro frames
  match items with
  | [] => rfl
  | item :: rest =>
    -- the machine may close the array here, but no item begins with a token that does
    have hbegin : build ⟨.items [] :: frames, .valueOrEnd⟩ (tokensOfItems (item :: rest))
        = build ⟨.items [] :: frames, .value⟩ (tokensOfItems (item :: rest)) := by
      obtain ⟨t, others, htokens, hstep⟩ := exists_tokens_eq_cons item
      cases rest with
      | nil => rw [tokensOfItems, htokens, build_cons, build_cons, hstep]
      | cons next rest =>
        rw [tokensOfItems, htokens, List.cons_append, build_cons, build_cons, hstep]
        exact fun hnil => nomatch hnil
    have hopen (tokens : List Token) : build ⟨frames, .value⟩ (.openItems :: tokens)
        = build ⟨.items [] :: frames, .valueOrEnd⟩ tokens := rfl
    have hclose (read : List Json) :
        build ⟨.items read :: frames, .commaOrEnd⟩ [.closeItems]
          = some (put frames (.arr read.reverse)) := rfl
    rw [tokens, hopen, build_append, hbegin, build_items h (List.cons_ne_nil _ _),
      Option.bind_some, List.append_nil, hclose, List.reverse_reverse]

theorem build_members {members : List (String × Json)} (h : ∀ m ∈ members, Builds m.2)
    (hne : members ≠ []) (read : List (Option String × Json)) (name : Option String)
    (outer : List Frame) :
    ∃ last, build ⟨.members read name :: outer, .name⟩ (tokensOfMembers members)
      = some ⟨.members ((members.map fun m => (some m.1, m.2)).reverse ++ read) last :: outer,
          .commaOrEnd⟩ := by
  have hname (s : String) (tokens : List Token) :
      build ⟨.members read name :: outer, .name⟩ (.str (some s) :: .colon :: tokens)
        = build ⟨.members read (some s) :: outer, .value⟩ tokens := rfl
  match members with
  | [] => exact absurd rfl hne
  | [(s, value)] =>
    refine ⟨some s, ?_⟩
    rw [tokensOfMembers, hname, h (s, value) List.mem_cons_self]
    rfl
  | (s, value) :: next :: rest =>
    obtain ⟨hvalue, hrest⟩ := List.forall_mem_cons.1 h
    have hcomma (tokens : List Token) :
        build (put (.members read (some s) :: outer) value) (.comma :: tokens)
          = build ⟨.members ((some s, value) :: read) (some s) :: outer, .name⟩ tokens := rfl
    obtain ⟨last, hlast⟩ :=
      build_members hrest (List.cons_ne_nil _ _) ((some s, value) :: read) (some s) outer
    refine ⟨last, ?_⟩
    rw [tokensOfMembers, hname, build_append, hvalue, Option.bind_some, hcomma, hlast,
      List.map_cons (a := (s, value)), List.reverse_cons (a := (some s, value)), List.append_assoc]
    · rfl
    · exact fun hnil => nomatch hnil

/-- The members of an object whose names could all be read. -/
theorem object_reverse_map (members : List (String × Json)) :
    object (members.map fun m => (some m.1, m.2)).reverse = .obj members := by
  have hnames : (members.map fun m => (some m.1, m.2)).mapM
      (fun m => m.1.map fun name => (name, m.2)) = some members := by
    induction members with
    | nil => rfl
    | cons m rest ih =>
      rw [List.map_cons, List.mapM_cons, ih]
      rfl
  rw [object, List.reverse_reverse, hnames]

theorem builds_obj {members : List (String × Json)} (h : ∀ m ∈ members, Builds m.2) :
    Builds (.obj members) := by
  intro frames
  match members with
  | [] => rfl
  | (s, value) :: rest =>
    have hbegin : build ⟨.members [] none :: frames, .nameOrEnd⟩
        (tokensOfMembers ((s, value) :: rest))
        = build ⟨.members [] none :: frames, .name⟩ (tokensOfMembers ((s, value) :: rest)) := by
      cases rest <;> rfl
    have hopen (tokens : List Token) : build ⟨frames, .value⟩ (.openMembers :: tokens)
        = build ⟨.members [] none :: frames, .nameOrEnd⟩ tokens := rfl
    have hclose (read : List (Option String × Json)) (name : Option String) :
        build ⟨.members read name :: frames, .commaOrEnd⟩ [.closeMembers]
          = some (put frames (object read)) := rfl
    obtain ⟨last, hlast⟩ := build_members h (List.cons_ne_nil _ _) [] none frames
    rw [tokens, hopen, build_append, hbegin, hlast, Option.bind_some, List.append_nil, hclose,
      object_reverse_map]

theorem build_tokens {j : Json} (h : j.Faithful) : Builds j := by
  induction h with
  | null => exact fun _ => rfl
  | bool b => exact fun _ => rfl
  | num h => exact fun _ => rfl
  | str s => exact fun _ => rfl
  | arr h ih => exact builds_arr ih
  | obj h ih => exact builds_obj ih

end Partial

/-- A document is read as it was written. -/
theorem parse_text {j : Json} (h : j.Faithful) : parse j.text = some j := by
  have hchars : j.text.toList = written j := String.toList_ofList
  have hdocument : ofChars? (written j)
      = (Token.ofChars? (written j)).bind fun tokens =>
          (Partial.build ⟨[], .value⟩ tokens).bind (·.result?) := rfl
  rw [parse, hchars, hdocument, Token.ofChars?_written h, Option.bind_some,
    Partial.build_tokens h, Option.bind_some]
  rfl

end SeedCleanup.Json

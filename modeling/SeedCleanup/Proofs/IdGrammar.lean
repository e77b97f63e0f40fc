import SeedCleanup.Inventory.Deletion
import SeedCleanup.Inventory.Reading
import SeedCleanup.Proofs.MediaIdTheorems
import SeedCleanup.Proofs.RetentionSafety

/-!
# The grammar of ids

An id is spelled by pieces between hyphens: the word of a kind, the digits of a number and what
selects files (`MediaId.Spelling`). These texts are read as the numbers that they spell, and no
others are read (`MediaId.parse_eq_some_iff`). An id that was read is written again without the
zeros at the start of its numbers (`MediaId.Spelling.text_eq_plain`).
-/

namespace SeedCleanup

/-! ## Spellings -/

open Text

namespace MediaId

/-- How files are selected in the text of an id: not at all, or by the digits of a number. -/
inductive SelectorSpelling where
  | all
  | file (digits : List Char)
  | season (digits : List Char)

namespace SelectorSpelling

/-- The pieces that follow the number of the title. -/
def pieces : SelectorSpelling → List (List Char)
  | all => []
  | file digits => [digits]
  | season digits => [['s'], digits]

/-- The number, if there is one, is a numeral within the range of its type. -/
def Valid : SelectorSpelling → Prop
  | all => True
  | file digits => IsNumeral (Nat.pow 2 63) digits
  | season digits => IsNumeral (Nat.pow 2 31) digits

/-- The selector carries the number that is spelled. -/
inductive Names : SelectorSpelling → FileSelector → Prop
  | all : Names .all .all
  | file {digits : List Char} {id : Int64} (h : id.toInt = valueOf digits) :
      Names (.file digits) (.file id)
  | season {digits : List Char} {number : Int32} (h : number.toInt = valueOf digits) :
      Names (.season digits) (.season number)

/-- The same without leading zeros. -/
def plain : SelectorSpelling → SelectorSpelling
  | all => all
  | file digits => file (withoutLeadingZeros digits)
  | season digits => season (withoutLeadingZeros digits)

end SelectorSpelling

/-- How an id is spelled. -/
structure Spelling where
  kind : MediaKind
  /-- The digits of the title's number. -/
  number : List Char
  selector : SelectorSpelling

namespace Spelling

/-- The pieces between the hyphens. -/
def pieces (p : Spelling) : List (List Char) :=
  p.kind.word.toList :: p.number :: p.selector.pieces

/-- The text that is spelled. -/
def text (p : Spelling) : String := String.ofList (['-'].intercalate p.pieces)

/-- The numbers are numerals within the ranges of their types. -/
structure Valid (p : Spelling) : Prop where
  number : IsNumeral (Nat.pow 2 63) p.number
  selector : p.selector.Valid

/-- An id has the kind and the numbers that are spelled. -/
structure Names (p : Spelling) (m : MediaId) : Prop where
  kind_eq : m.kind = p.kind
  id_eq : m.id.toInt = valueOf p.number
  selector : p.selector.Names m.selector

/-- The same without leading zeros. -/
def plain (p : Spelling) : Spelling :=
  { p with number := withoutLeadingZeros p.number, selector := p.selector.plain }

end Spelling

/-! ## What is read -/

theorem number?_eq_some_iff {bound n : Nat} {digits : List Char} :
    number? bound digits = some n ↔ IsNumeral bound digits ∧ n = valueOf digits := by
  have hnumeral : (digits.isEmpty || !digits.all Char.isDigit) = false
      ↔ digits ≠ [] ∧ ∀ c ∈ digits, c.isDigit = true := by
    rw [Bool.or_eq_false_iff, List.isEmpty_eq_false_iff, Bool.not_eq_false', List.all_eq_true]
  rw [number?, Option.filter_eq_some_iff, decide_eq_true_iff, numeral?,
    decimalValue_eq_ofDigitChars]
  constructor
  · rintro ⟨hread, hlt⟩
    split at hread
    · cases hread
    · rename_i hdigits
      obtain ⟨hne, hall⟩ := hnumeral.1 (Bool.eq_false_iff.2 hdigits)
      obtain rfl := Option.some.inj hread
      exact ⟨⟨hne, hall, hlt⟩, rfl⟩
  · rintro ⟨h, rfl⟩
    rw [hnumeral.2 ⟨h.ne_nil, h.isDigit⟩]
    exact ⟨rfl, h.lt⟩

theorem ofWord?_eq_some_iff {word : List Char} {kind : MediaKind} :
    MediaKind.ofWord? (String.ofList word) = some kind ↔ word = kind.word.toList := by
  rw [← String.ofList_inj, String.ofList_toList, MediaKind.ofWord?]
  constructor
  · intro h
    split at h
    · rename_i heq
      obtain rfl := Option.some.inj h
      exact heq
    · split at h
      · rename_i heq
        obtain rfl := Option.some.inj h
        exact heq
      · cases h
  · intro h
    rw [h]
    cases kind <;> rfl

/-- What follows the number of the title is read as a selector exactly when it spells it. -/
theorem selector?_eq_some_iff {rest : List (List Char)} {s : FileSelector} :
    selector? rest = some s
      ↔ ∃ q : SelectorSpelling, q.pieces = rest ∧ q.Valid ∧ q.Names s := by
  constructor
  · intro h
    unfold selector? at h
    split at h
    · obtain rfl := Option.some.inj h
      exact ⟨.all, rfl, trivial, .all⟩
    · rename_i digits
      obtain ⟨n, hread, rfl⟩ := Option.map_eq_some_iff.1 h
      obtain ⟨hdigits, rfl⟩ := number?_eq_some_iff.1 hread
      exact ⟨.file digits, rfl, hdigits, .file (Int64.toInt_ofNat_of_lt hdigits.lt)⟩
    · rename_i digits
      obtain ⟨n, hread, rfl⟩ := Option.map_eq_some_iff.1 h
      obtain ⟨hdigits, rfl⟩ := number?_eq_some_iff.1 hread
      exact ⟨.season digits, rfl, hdigits, .season (Int32.toInt_ofNat_of_lt hdigits.lt)⟩
    · cases h
  · rintro ⟨q, rfl, hvalid, hnames⟩
    cases hnames with
    | all => rfl
    | @file digits id h =>
      have hdigits : IsNumeral (Nat.pow 2 63) digits := hvalid
      have hid : Int64.ofNat (valueOf digits) = id := by
        rw [← Int64.toInt_inj, Int64.toInt_ofNat_of_lt hdigits.lt, h]
      show (number? _ digits).map _ = _
      rw [number?_eq_some_iff.2 ⟨hdigits, rfl⟩, Option.map_some, hid]
    | @season digits number h =>
      have hdigits : IsNumeral (Nat.pow 2 31) digits := hvalid
      have hnumber : Int32.ofNat (valueOf digits) = number := by
        rw [← Int32.toInt_inj, Int32.toInt_ofNat_of_lt hdigits.lt, h]
      show (number? _ digits).map _ = _
      rw [number?_eq_some_iff.2 ⟨hdigits, rfl⟩, Option.map_some, hnumber]

/-- Every valid spelling names an id. -/
theorem Spelling.exists_names {p : Spelling} (h : p.Valid) : ∃ m, p.Names m := by
  obtain ⟨kind, number, q⟩ := p
  have hid : (Int64.ofNat (valueOf number)).toInt = valueOf number :=
    Int64.toInt_ofNat_of_lt h.number.lt
  obtain ⟨s, hs⟩ : ∃ s, q.Names s := by
    have hvalid := h.selector
    cases q with
    | all => exact ⟨.all, .all⟩
    | file digits => exact ⟨_, .file (Int64.toInt_ofNat_of_lt (IsNumeral.lt hvalid))⟩
    | season digits => exact ⟨_, .season (Int32.toInt_ofNat_of_lt (IsNumeral.lt hvalid))⟩
  exact ⟨⟨kind, _, s⟩, rfl, hid, hs⟩

/-- No piece of a valid spelling holds a hyphen. -/
theorem Spelling.Valid.hyphen_notMem {p : Spelling} (h : p.Valid) :
    ∀ piece ∈ p.pieces, '-' ∉ piece := by
  have hselector : ∀ piece ∈ p.selector.pieces, '-' ∉ piece := by
    have hvalid := h.selector
    cases hp : p.selector with
    | all => simp [SelectorSpelling.pieces]
    | file digits =>
      rw [hp] at hvalid
      exact List.forall_mem_singleton.2 (IsNumeral.hyphen_notMem hvalid)
    | season digits =>
      rw [hp] at hvalid
      exact List.forall_mem_cons.2
        ⟨by decide, List.forall_mem_singleton.2 (IsNumeral.hyphen_notMem hvalid)⟩
  rw [Spelling.pieces, List.forall_mem_cons, List.forall_mem_cons]
  exact ⟨hyphen_notMem_word p.kind, h.number.hyphen_notMem, hselector⟩

/-- A text is read as an id exactly when it spells the id. -/
theorem parse_eq_some_iff {s : String} {m : MediaId} :
    parse s = some m ↔ ∃ p : Spelling, p.Valid ∧ p.text = s ∧ p.Names m := by
  constructor
  · intro h
    unfold parse at h
    split at h
    · rename_i word number rest hsplit
      obtain ⟨kind, hkind, h⟩ := Option.bind_eq_some_iff.1 h
      obtain ⟨n, hnumber, h⟩ := Option.bind_eq_some_iff.1 h
      obtain ⟨selector, hselector, heq⟩ := Option.bind_eq_some_iff.1 h
      obtain rfl := Option.some.inj heq
      obtain ⟨hdigits, rfl⟩ := number?_eq_some_iff.1 hnumber
      obtain ⟨q, rfl, hvalid, hnames⟩ := selector?_eq_some_iff.1 hselector
      refine ⟨⟨kind, number, q⟩, ⟨hdigits, hvalid⟩, ?_, rfl, Int64.toInt_ofNat_of_lt hdigits.lt,
        hnames⟩
      -- joining the pieces that were read gives the text back
      rw [Spelling.text, Spelling.pieces, ← ofWord?_eq_some_iff.1 hkind, ← hsplit,
        splitOnChar_eq_splitOn, List.intercalate_splitOn, String.ofList_toList]
    · cases h
  · rintro ⟨p, hvalid, rfl, hnames⟩
    have hsplit : splitOnChar '-' p.text.toList = p.pieces := by
      rw [Spelling.text, String.toList_ofList, splitOnChar_eq_splitOn]
      exact List.splitOn_intercalate _ hvalid.hyphen_notMem (List.cons_ne_nil _ _)
    have hid : Int64.ofNat (valueOf p.number) = m.id := by
      rw [← Int64.toInt_inj, Int64.toInt_ofNat_of_lt hvalid.number.lt, hnames.id_eq]
    have hnumber : number? (Nat.pow 2 63) p.number = some (valueOf p.number) :=
      number?_eq_some_iff.2 ⟨hvalid.number, rfl⟩
    have hselector : selector? p.selector.pieces = some m.selector :=
      selector?_eq_some_iff.2 ⟨_, rfl, hvalid.selector, hnames.selector⟩
    simp only [parse, hsplit, Spelling.pieces, ofWord?_eq_some_iff.2 rfl, hnumber, hselector,
      Option.bind_eq_bind, Option.bind_some, hid, ← hnames.kind_eq]

/-! ## What is written -/

/-- A number is written as it was spelled, without the zeros at its start. -/
theorem toList_toString_of_numeral {bound : Nat} {digits : List Char} {n : Int}
    (h : IsNumeral bound digits) (hn : n = valueOf digits) :
    (toString n).toList = withoutLeadingZeros digits := by
  rw [hn, toList_toString_of_nonneg (Int.natCast_nonneg _), Int.toNat_natCast,
    toDigits_valueOf h.isDigit]

theorem SelectorSpelling.Names.unsigned {q : SelectorSpelling} {s : FileSelector} (h : q.Names s) :
    s.Unsigned := by
  cases h with
  | all => trivial
  | file h => exact Int64.le_iff_toInt_le.2 (h ▸ Int.natCast_nonneg _)
  | season h => exact Int32.le_iff_toInt_le.2 (h ▸ Int.natCast_nonneg _)

/-- What selects files is written after the number of the title, each piece after a hyphen. -/
theorem SelectorSpelling.toList_suffix {q : SelectorSpelling} {s : FileSelector} (hvalid : q.Valid)
    (h : q.Names s) : s.suffix.toList = q.plain.pieces.flatMap ('-' :: ·) := by
  cases h with
  | all => rfl
  | @file digits id h =>
    have hdigits : IsNumeral (Nat.pow 2 63) digits := hvalid
    rw [FileSelector.suffix, String.toList_append, toList_toString_of_numeral hdigits h]
    exact (List.append_nil _).symm
  | @season digits number h =>
    have hdigits : IsNumeral (Nat.pow 2 31) digits := hvalid
    rw [FileSelector.suffix, String.toList_append, toList_toString_of_numeral hdigits h]
    exact congrArg ('-' :: 's' :: '-' :: ·) (List.append_nil _).symm

namespace Spelling

variable {p : Spelling} {m : MediaId}

theorem toList_text (p : Spelling) :
    p.text.toList
      = p.kind.word.toList ++ '-' :: (p.number ++ p.selector.pieces.flatMap ('-' :: ·)) := by
  rw [text, String.toList_ofList, pieces]
  cases p.selector with
  | all => simp [SelectorSpelling.pieces]
  | file digits => simp [SelectorSpelling.pieces]
  | season digits => simp [SelectorSpelling.pieces]

theorem Names.unsigned (h : p.Names m) : m.Unsigned :=
  ⟨Int64.le_iff_toInt_le.2 (h.id_eq ▸ Int.natCast_nonneg _), h.selector.unsigned⟩

/-- An id that a text spells is written like that text, without leading zeros. -/
theorem text_eq_plain (hvalid : p.Valid) (h : p.Names m) : m.text = p.plain.text := by
  rw [← String.toList_inj, MediaId.toList_text, toList_text, h.kind_eq,
    toList_toString_of_numeral hvalid.number h.id_eq,
    SelectorSpelling.toList_suffix hvalid.selector h.selector]
  rfl

end Spelling

/-! ## Signs -/

/-- A sign leaves an empty piece before the digits. -/
theorem splitOnChar_toString_of_neg {n : Int} (h : n < 0) :
    splitOnChar '-' (toString n).toList = [[], Nat.toDigits 10 n.natAbs] := by
  have hdigits : (toString n).toList = [] ++ '-' :: Nat.toDigits 10 n.natAbs :=
    toList_toString_of_neg h
  rw [hdigits, splitOnChar_append_cons List.not_mem_nil,
    splitOnChar_of_notMem (hyphen_notMem_toDigits _)]

theorem splitOnChar_text {m : MediaId} (hid : 0 ≤ m.id) {rest : List Char}
    (h : m.selector.suffix.toList = '-' :: rest) :
    splitOnChar '-' m.text.toList
      = m.kind.word.toList :: (toString m.id.toInt).toList :: splitOnChar '-' rest := by
  rw [MediaId.toList_text, h, splitOnChar_append_cons (hyphen_notMem_word _),
    splitOnChar_append_cons (hyphen_notMem_toString (Int64.le_iff_toInt_le.1 hid))]

/-- An id with a sign has no text that can be read. -/
theorem parse_text_of_signed {m : MediaId} (h : ¬m.Unsigned) : parse m.text = none := by
  by_cases hid : m.id < 0
  · exact parse_text_of_neg hid
  · have hid : 0 ≤ m.id := Int64.not_lt.1 hid
    have hselector : ¬m.selector.Unsigned := fun hs => h ⟨hid, hs⟩
    -- the selector has a piece more than one without a sign
    obtain ⟨rest, hrest, hnone⟩ : ∃ rest, m.selector.suffix.toList = '-' :: rest ∧
        selector? (splitOnChar '-' rest) = none := by
      cases hs : m.selector with
      | all =>
        rw [hs] at hselector
        exact absurd trivial hselector
      | file id =>
        rw [hs] at hselector
        have hneg : id.toInt < 0 := Int64.lt_iff_toInt_lt.1 (Int64.not_le.1 hselector)
        refine ⟨(toString id.toInt).toList, String.toList_append, ?_⟩
        rw [splitOnChar_toString_of_neg hneg]
        rfl
      | season n =>
        rw [hs] at hselector
        have hneg : n.toInt < 0 := Int32.lt_iff_toInt_lt.1 (Int32.not_le.1 hselector)
        refine ⟨['s'] ++ '-' :: (toString n.toInt).toList, String.toList_append, ?_⟩
        rw [splitOnChar_append_cons (by decide), splitOnChar_toString_of_neg hneg]
        rfl
    simp only [parse, splitOnChar_text hid hrest, hnone, Option.bind_eq_bind, Option.bind_none]
    cases MediaKind.ofWord? _ with
    | none => rfl
    | some kind => cases number? _ _ <;> rfl

end MediaId

/-! ## Texts and ids -/

/-- A text is an id exactly when it spells a title, a file or a season by numerals that fit their
types, and it is refused by name otherwise. The text of an id is read as that id unless a number
carries a sign, and what was read is written again without leading zeros. -/
theorem ids_of_spellings {μ τ ρ : Type} (b : Backends μ τ ρ) (now : Instant)
    (s : Inventory μ τ ρ) :
    (∀ p : MediaId.Spelling, p.Valid → ∃ m, MediaId.parse p.text = some m ∧ p.Names m) ∧
    (∀ text, (¬∃ p : MediaId.Spelling, p.Valid ∧ p.text = text) →
      MediaId.parse text = none ∧ s.expand b now text = (.error (.malformedId text), s) ∧
        s.delete b text = (.error (.malformedId text), s)) ∧
    (∀ m : MediaId, (MediaId.parse m.text = some m ↔ m.Unsigned) ∧
      (MediaId.parse m.text = none ↔ ¬m.Unsigned)) ∧
    (∀ m m' : MediaId, m.Unsigned → m'.Unsigned → m.text = m'.text → m = m') ∧
    ∀ (p : MediaId.Spelling) m, p.Valid → MediaId.parse p.text = some m →
      m.text = p.plain.text ∧ MediaId.parse p.plain.text = some m := by
  have hspelled (p : MediaId.Spelling) (h : p.Valid) :
      ∃ m, MediaId.parse p.text = some m ∧ p.Names m := by
    obtain ⟨m, hm⟩ := MediaId.Spelling.exists_names h
    exact ⟨m, MediaId.parse_eq_some_iff.2 ⟨p, h, rfl, hm⟩, hm⟩
  refine ⟨hspelled, fun text hnot => ?_, fun m => ?_,
    fun m m' h h' => (MediaId.text_inj h h').1, fun p m hvalid hread => ?_⟩
  · have hnone : MediaId.parse text = none := by
      rw [Option.eq_none_iff_forall_ne_some]
      intro m hm
      obtain ⟨p, hvalid, htext, -⟩ := MediaId.parse_eq_some_iff.1 hm
      exact hnot ⟨p, hvalid, htext⟩
    refine ⟨hnone, ?_, ?_⟩
    · simp only [Inventory.expand, hnone]
    · simp only [Inventory.delete, hnone]
  · by_cases h : m.Unsigned
    · simp [MediaId.parse_text h, h]
    · simp [MediaId.parse_text_of_signed h, h]
  · obtain ⟨m', hread', hnames⟩ := hspelled p hvalid
    obtain rfl := Option.some.inj (hread.symm.trans hread')
    have htext := MediaId.Spelling.text_eq_plain hvalid hnames
    exact ⟨htext, htext ▸ MediaId.parse_text hnames.unsigned⟩

/-- A season whose numbers start with zeros. -/
def Sample.spelling : MediaId.Spelling := ⟨.series, ['0', '0', '7'], .season ['0', '2']⟩

open Sample in
theorem season_with_leading_zeros :
    spelling.Valid ∧ spelling.text = "series-007-s-02" ∧
    MediaId.parse spelling.text = some ⟨.series, 7, .season 2⟩ ∧
    (⟨.series, 7, .season 2⟩ : MediaId).text = spelling.plain.text ∧
    spelling.plain.text = "series-7-s-2" ∧
    inventory.delete backends "series-7--2"
      = (.error (.malformedId "series-7--2"), inventory) := by
  obtain ⟨hspelled, hrefused, -, -, hplain⟩ := ids_of_spellings backends ⟨0, 0⟩ inventory
  have hvalid : spelling.Valid :=
    ⟨⟨by decide, List.all_eq_true.1 rfl, by decide⟩, ⟨by decide, List.all_eq_true.1 rfl, by decide⟩⟩
  have hread : MediaId.parse spelling.text = some ⟨.series, 7, .season 2⟩ :=
    MediaId.parse_eq_some_iff.2 ⟨spelling, hvalid, rfl, rfl, rfl, .season rfl⟩
  have hsigned : ¬∃ p : MediaId.Spelling, p.Valid ∧ p.text = "series-7--2" := by
    rintro ⟨p, hp, htext⟩
    obtain ⟨m, hm, -⟩ := hspelled p hp
    rw [htext] at hm
    cases hm
  exact ⟨hvalid, rfl, hread, (hplain _ _ hvalid hread).1, rfl, (hrefused _ hsigned).2.2⟩

end SeedCleanup

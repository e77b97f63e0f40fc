import SeedCleanup.Media.Id
import SeedCleanup.Proofs.TextTheorems

/-!
# The texts of ids

The text of an id without signs can be read back (`parse_text`): the text is split where it was
joined, since a numeral holds no hyphen, and every numeral is read as the number that it writes.
-/

namespace SeedCleanup

/-! ## Numbers of ids -/

open Text

namespace FileSelector

/-- Whether the number of a selector, if it has one, carries no sign. -/
def Unsigned : FileSelector → Prop
  | all => True
  | file id => 0 ≤ id
  | season number => 0 ≤ number

end FileSelector

namespace MediaId

/-- Whether no number of an id carries a sign. -/
def Unsigned (m : MediaId) : Prop := 0 ≤ m.id ∧ m.selector.Unsigned

theorem number?_toDigits {bound n : Nat} (h : n < bound) :
    number? bound (Nat.toDigits 10 n) = some n := by
  rw [number?, numeral?_toDigits, Option.filter_some, decide_eq_true h, if_pos rfl]

theorem number?_toString_int64 {n : Int64} (h : 0 ≤ n) :
    number? (Nat.pow 2 63) (toString n.toInt).toList = some n.toNatClampNeg := by
  have hn : 0 ≤ n.toInt := Int64.le_iff_toInt_le.1 h
  have hlt : n.toInt.toNat < 2 ^ 63 := by
    have hbound := n.toInt_lt
    omega
  rw [toList_toString_of_nonneg hn]
  exact number?_toDigits hlt

theorem number?_toString_int32 {n : Int32} (h : 0 ≤ n) :
    number? (Nat.pow 2 31) (toString n.toInt).toList = some n.toNatClampNeg := by
  have hn : 0 ≤ n.toInt := Int32.le_iff_toInt_le.1 h
  have hlt : n.toInt.toNat < 2 ^ 31 := by
    have hbound := n.toInt_lt
    omega
  rw [toList_toString_of_nonneg hn]
  exact number?_toDigits hlt

theorem hyphen_notMem_toString {n : Int} (h : 0 ≤ n) : '-' ∉ (toString n).toList := by
  rw [toList_toString_of_nonneg h]
  exact hyphen_notMem_toDigits _

/-! ## Reading back -/

/-- What stands after the number of the title is read as the selector that it writes. -/
theorem exists_pieces {s : FileSelector} (h : s.Unsigned) :
    ∃ pieces, selector? pieces = some s ∧ ∀ number, '-' ∉ number →
      splitOnChar '-' (number ++ s.suffix.toList) = number :: pieces := by
  cases s with
  | all =>
    refine ⟨[], rfl, fun number hnumber => ?_⟩
    rw [FileSelector.suffix, String.toList_empty, List.append_nil, splitOnChar_of_notMem hnumber]
  | file id =>
    have hpiece := hyphen_notMem_toString (Int64.le_iff_toInt_le.1 h)
    refine ⟨[(toString id.toInt).toList], ?_, fun number hnumber => ?_⟩
    · rw [selector?, number?_toString_int64 h, Option.map_some, Int64.ofNat_toNatClampNeg id h]
    · rw [FileSelector.suffix, String.toList_append]
      show splitOnChar '-' (number ++ '-' :: (toString id.toInt).toList) = _
      rw [splitOnChar_append_cons hnumber, splitOnChar_of_notMem hpiece]
  | season n =>
    have hpiece := hyphen_notMem_toString (Int32.le_iff_toInt_le.1 h)
    refine ⟨[['s'], (toString n.toInt).toList], ?_, fun number hnumber => ?_⟩
    · rw [selector?, number?_toString_int32 h, Option.map_some, Int32.ofNat_toNatClampNeg n h]
    · rw [FileSelector.suffix, String.toList_append]
      show splitOnChar '-' (number ++ '-' :: (['s'] ++ '-' :: (toString n.toInt).toList)) = _
      rw [splitOnChar_append_cons hnumber, splitOnChar_append_cons (by decide),
        splitOnChar_of_notMem hpiece]

theorem hyphen_notMem_word (kind : MediaKind) : '-' ∉ kind.word.toList := by
  cases kind <;> decide

theorem toList_text (m : MediaId) :
    m.text.toList = m.kind.word.toList ++
      '-' :: ((toString m.id.toInt).toList ++ m.selector.suffix.toList) := by
  simp only [text, String.toList_append, List.append_assoc]
  rfl

/-- The text of an id without signs is read as that id. -/
theorem parse_text {m : MediaId} (h : m.Unsigned) : parse m.text = some m := by
  obtain ⟨hid, hselector⟩ := h
  obtain ⟨pieces, hread, hsplit⟩ := exists_pieces hselector
  have htext : splitOnChar '-' m.text.toList
      = m.kind.word.toList :: (toString m.id.toInt).toList :: pieces := by
    rw [toList_text, splitOnChar_append_cons (hyphen_notMem_word _),
      hsplit _ (hyphen_notMem_toString (Int64.le_iff_toInt_le.1 hid))]
  have hword : MediaKind.ofWord? (String.ofList m.kind.word.toList) = some m.kind := by
    rw [String.ofList_toList]
    cases m.kind <;> rfl
  simp only [parse, htext, hword, number?_toString_int64 hid, hread, Option.bind_eq_bind,
    Option.bind_some, Int64.ofNat_toNatClampNeg m.id hid]

example : parse "series-5-s-2" = some ⟨.series, 5, .season 2⟩ := rfl

/-- A title whose number carries a sign has no id that can be read. -/
theorem parse_text_of_neg {m : MediaId} (h : m.id < 0) : parse m.text = none := by
  have hdigits := toList_toString_of_neg (Int64.lt_iff_toInt_lt.1 h)
  have htext : splitOnChar '-' m.text.toList
      = m.kind.word.toList :: [] ::
          splitOnChar '-' (Nat.toDigits 10 m.id.toInt.natAbs ++ m.selector.suffix.toList) := by
    have hempty : (toString m.id.toInt).toList ++ m.selector.suffix.toList
        = [] ++ '-' :: (Nat.toDigits 10 m.id.toInt.natAbs ++ m.selector.suffix.toList) := by
      rw [hdigits]
      rfl
    rw [toList_text, hempty, splitOnChar_append_cons (hyphen_notMem_word _),
      splitOnChar_append_cons List.not_mem_nil]
  have hnumber : number? (Nat.pow 2 63) [] = none := rfl
  simp only [parse, htext, hnumber]
  cases MediaKind.ofWord? _ <;> rfl

/-- Below one title a season is told apart from all else, whatever signs the numbers carry. -/
theorem text_eq_text_season_iff {kind : MediaKind} {id : Int64} {s : FileSelector} {n : Int32} :
    (mk kind id s).text = (mk kind id (.season n)).text ↔ s = .season n := by
  refine ⟨fun h => ?_, fun h => by rw [h]⟩
  have hseason : (FileSelector.season n).suffix.toList
      = ['-', 's', '-'] ++ (toString n.toInt).toList := String.toList_append
  have hsuffix : s.suffix.toList = ['-', 's', '-'] ++ (toString n.toInt).toList := by
    rw [← hseason]
    simpa only [← String.toList_inj, toList_text, List.append_cancel_left_eq, List.cons.injEq,
      true_and] using h
  cases s with
  | all => cases hsuffix
  | file file =>
    have hfile : (FileSelector.file file).suffix.toList = '-' :: (toString file.toInt).toList :=
      String.toList_append
    rw [hfile] at hsuffix
    have hs : 's' ∈ (toString file.toInt).toList := by
      rw [(List.cons.inj hsuffix).2]
      exact List.mem_cons_self
    rcases isDigit_or_eq_hyphen_of_mem_toString hs with hdigit | hhyphen
    · cases hdigit
    · cases hhyphen
  | season m =>
    have hnumber : (toString m.toInt).toList = (toString n.toInt).toList :=
      List.append_cancel_left (String.toList_append.symm.trans hsuffix)
    rw [Int32.toInt_inj.1 (toList_toString_inj.1 hnumber)]

/-- Ids without signs are told apart by their texts. -/
theorem text_inj {m m' : MediaId} (h : m.Unsigned) (h' : m'.Unsigned) :
    m.text = m'.text ↔ m = m' := by
  constructor
  · intro heq
    have hparse : parse m.text = parse m'.text := congrArg parse heq
    rw [parse_text h, parse_text h'] at hparse
    exact Option.some.inj hparse
  · intro heq
    rw [heq]

end MediaId

end SeedCleanup

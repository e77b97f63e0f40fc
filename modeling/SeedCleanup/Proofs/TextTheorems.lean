import Mathlib.Data.List.Induction
import SeedCleanup.Text.Chars

/-!
# Pieces and numerals

A text is cut at separators as the library cuts lists (`splitOnChar_eq_splitOn`). The decimal
digits of a number are read as that number (`numeral?_toDigits`), and digits with zeros at their
start are written again without them (`toDigits_valueOf`).
-/

namespace SeedCleanup

namespace Text

/-! ## Pieces of a text -/

variable {separator : Char}

theorem splitBy_eq_splitOnP (p : Char → Bool) (s : List Char) : splitBy p s = s.splitOnP p := by
  induction s with
  | nil => rfl
  | cons c rest ih =>
    rw [splitBy, ih, List.splitOnP_cons_eq_if_modifyHead]
    split
    · rfl
    · obtain ⟨piece, pieces, h⟩ := List.exists_cons_of_ne_nil (List.splitOnP_ne_nil p rest)
      rw [h]
      rfl

theorem splitOnChar_eq_splitOn (separator : Char) (s : List Char) :
    splitOnChar separator s = s.splitOn separator := splitBy_eq_splitOnP _ s

theorem beq_eq_false_of_notMem {piece : List Char} (h : separator ∉ piece) :
    ∀ c ∈ piece, (c == separator) = false := by
  rintro c hc
  refine beq_false_of_ne ?_
  rintro rfl
  exact h hc

theorem splitOnChar_of_notMem {piece : List Char} (h : separator ∉ piece) :
    splitOnChar separator piece = [piece] := by
  rw [splitOnChar_eq_splitOn]
  exact List.splitOnP_eq_singleton (beq_eq_false_of_notMem h)

/-- A piece ends at the first separator. -/
theorem splitOnChar_append_cons {piece : List Char} (h : separator ∉ piece) (rest : List Char) :
    splitOnChar separator (piece ++ separator :: rest) = piece :: splitOnChar separator rest := by
  rw [splitOnChar_eq_splitOn, splitOnChar_eq_splitOn]
  exact List.splitOnP_append_cons_of_forall_mem (beq_eq_false_of_notMem h) _
    (beq_self_eq_true _) rest

/-! ## Numerals -/

theorem decimalValue_eq_ofDigitChars (digits : List Char) :
    decimalValue digits = Nat.ofDigitChars 10 digits 0 := by
  rw [decimalValue, numeralValue, List.foldl_map, Nat.ofDigitChars_eq_foldl]
  simp only [digitValue, Nat.mul_comm]

/-- Decimal digits have the value of the number that they write. -/
theorem decimalValue_toDigits (n : Nat) : decimalValue (Nat.toDigits 10 n) = n := by
  rw [decimalValue_eq_ofDigitChars, Nat.ofDigitChars_ten_toDigits]

/-- Decimal digits are read as the number that they write. -/
theorem numeral?_toDigits (n : Nat) : numeral? (Nat.toDigits 10 n) = some n := by
  have hdigits : (Nat.toDigits 10 n).all Char.isDigit = true := by
    rw [List.all_eq_true]
    intro c hc
    exact Nat.isDigit_of_mem_toDigits (by decide) (by decide) hc
  have hne : (Nat.toDigits 10 n).isEmpty = false := by
    rw [List.isEmpty_eq_false_iff]
    exact Nat.toDigits_ne_nil
  rw [numeral?, hdigits, hne, decimalValue_toDigits]
  rfl

theorem hyphen_notMem_toDigits (n : Nat) : '-' ∉ Nat.toDigits 10 n := by
  intro h
  cases Nat.isDigit_of_mem_toDigits (by decide) (by decide) h

/-- The text of a number without a sign is its digits. -/
theorem toList_toString_of_nonneg {n : Int} (h : 0 ≤ n) :
    (toString n).toList = Nat.toDigits 10 n.toNat := by
  obtain ⟨k, rfl⟩ := Int.eq_ofNat_of_zero_le h
  exact Nat.toList_repr

/-- The text of a number with a sign is a hyphen and the digits of the number without it. -/
theorem toList_toString_of_neg {n : Int} (h : n < 0) :
    (toString n).toList = '-' :: Nat.toDigits 10 n.natAbs := by
  obtain ⟨k, rfl⟩ := Int.eq_negSucc_of_lt_zero h
  show ("-" ++ Nat.repr (k + 1)).toList = _
  rw [String.toList_append, Nat.toList_repr]
  rfl

theorem isDigit_or_eq_hyphen_of_mem_toString {n : Int} {c : Char} (h : c ∈ (toString n).toList) :
    c.isDigit = true ∨ c = '-' := by
  have hdigit {k : Nat} (hc : c ∈ Nat.toDigits 10 k) : c.isDigit = true :=
    Nat.isDigit_of_mem_toDigits (by decide) (by decide) hc
  rcases Int.lt_or_le n 0 with hn | hn
  · rw [toList_toString_of_neg hn, List.mem_cons] at h
    exact h.symm.imp_left hdigit
  · rw [toList_toString_of_nonneg hn] at h
    exact .inl (hdigit h)

/-- Integers are told apart by their texts. -/
theorem toList_toString_inj {m n : Int} : (toString m).toList = (toString n).toList ↔ m = n := by
  refine ⟨fun h => ?_, fun h => by rw [h]⟩
  have hdigits {j k : Nat} (hjk : Nat.toDigits 10 j = Nat.toDigits 10 k) : j = k := by
    rw [← decimalValue_toDigits j, hjk, decimalValue_toDigits]
  rcases Int.lt_or_le m 0 with hm | hm <;> rcases Int.lt_or_le n 0 with hn | hn
  · rw [toList_toString_of_neg hm, toList_toString_of_neg hn] at h
    have habs := hdigits (List.cons.inj h).2
    omega
  · rw [toList_toString_of_neg hm, toList_toString_of_nonneg hn] at h
    exact absurd (h ▸ List.mem_cons_self) (hyphen_notMem_toDigits _)
  · rw [toList_toString_of_nonneg hm, toList_toString_of_neg hn] at h
    exact absurd (h ▸ List.mem_cons_self) (hyphen_notMem_toDigits _)
  · rw [toList_toString_of_nonneg hm, toList_toString_of_nonneg hn] at h
    have habs := hdigits h
    omega

/-! ## Numerals with leading zeros -/

/-- The number that decimal digits write. -/
def valueOf (digits : List Char) : Nat := Nat.ofDigitChars 10 digits 0

/-- One or more decimal digits whose value is below a bound. They may start with zeros. -/
structure IsNumeral (bound : Nat) (digits : List Char) : Prop where
  ne_nil : digits ≠ []
  isDigit : ∀ c ∈ digits, c.isDigit = true
  lt : valueOf digits < bound

/-- Digits without the zeros at their start; of zeros alone one stays. -/
def withoutLeadingZeros (digits : List Char) : List Char :=
  match digits.dropWhile (· == '0') with
  | [] => ['0']
  | rest => rest

theorem valueOf_append_singleton (digits : List Char) (c : Char) :
    valueOf (digits ++ [c]) = 10 * valueOf digits + (c.toNat - '0'.toNat) := by
  rw [valueOf, Nat.ofDigitChars_append, Nat.ofDigitChars_cons, Nat.ofDigitChars_nil, valueOf]

theorem valueOf_dropWhile_zero (digits : List Char) :
    valueOf (digits.dropWhile (· == '0')) = valueOf digits := by
  induction digits with
  | nil => rfl
  | cons c rest ih =>
    by_cases hc : c = '0'
    · subst hc
      rw [List.dropWhile_cons_of_pos rfl, ih, valueOf, valueOf, Nat.ofDigitChars_cons]
      rfl
    · rw [List.dropWhile_cons_of_neg (by simpa using hc)]

/-- A digit is the one that is written for its value. -/
theorem digitChar_of_isDigit {c : Char} (h : c.isDigit = true) :
    c.toNat - '0'.toNat < 10 ∧ Nat.digitChar (c.toNat - '0'.toNat) = c := by
  have hzero : '0'.toNat = 48 := rfl
  have hnine : '9'.toNat = 57 := rfl
  have hrange := Char.isDigit_iff_toNat.1 h
  have hlt : c.toNat - '0'.toNat < 10 := by omega
  refine ⟨hlt, Char.toNat_inj.1 ?_⟩
  rw [Nat.toNat_digitChar_of_lt_ten hlt]
  omega

/-- Digits that do not start with zero are those that are written for their value. -/
theorem toDigits_valueOf_cons {c : Char} {rest : List Char} (hzero : c ≠ '0')
    (h : ∀ d ∈ c :: rest, d.isDigit = true) :
    0 < valueOf (c :: rest) ∧ Nat.toDigits 10 (valueOf (c :: rest)) = c :: rest := by
  induction rest using List.reverseRecOn with
  | nil =>
    obtain ⟨hlt, hchar⟩ := digitChar_of_isDigit (h c List.mem_cons_self)
    have hvalue : valueOf [c] = c.toNat - '0'.toNat :=
      (valueOf_append_singleton [] c).trans (Nat.zero_add _)
    have hpos : c.toNat - '0'.toNat ≠ 0 := by
      intro heq
      rw [heq] at hchar
      exact hzero hchar.symm
    rw [hvalue, Nat.toDigits_of_lt_base hlt, hchar]
    exact ⟨Nat.pos_of_ne_zero hpos, rfl⟩
  | append_singleton rest d ih =>
    -- what stands before the last digit has a value above zero, so no digit is lost
    rw [← List.cons_append] at h ⊢
    obtain ⟨hpos, hdigits⟩ := ih fun e he => h e (List.mem_append_left _ he)
    obtain ⟨hlt, hchar⟩ := digitChar_of_isDigit (h d (List.mem_append_right _ List.mem_cons_self))
    rw [valueOf_append_singleton]
    refine ⟨by omega, ?_⟩
    rw [← Nat.toDigits_append_toDigits (by decide) hpos hlt, hdigits,
      Nat.toDigits_of_lt_base hlt, hchar]

/-- What is written for the value of digits are these digits without the zeros at their start. -/
theorem toDigits_valueOf {digits : List Char} (h : ∀ c ∈ digits, c.isDigit = true) :
    Nat.toDigits 10 (valueOf digits) = withoutLeadingZeros digits := by
  rw [← valueOf_dropWhile_zero, withoutLeadingZeros]
  cases hrest : digits.dropWhile (· == '0') with
  | nil => rfl
  | cons c rest =>
    have hzero : c ≠ '0' := by
      have hhead := List.head?_dropWhile_not (· == '0') digits
      rw [hrest] at hhead
      simpa using hhead
    refine (toDigits_valueOf_cons hzero fun d hd => h d ?_).2
    rw [← hrest] at hd
    exact (List.dropWhile_sublist _).mem hd

namespace IsNumeral

variable {bound : Nat} {digits : List Char}

theorem hyphen_notMem (h : IsNumeral bound digits) : '-' ∉ digits := by
  intro hmem
  cases h.isDigit _ hmem

end IsNumeral

end Text

end SeedCleanup

import Mathlib.Data.List.TakeWhile
import Mathlib.Tactic.IntervalCases
import SeedCleanup.Json.Printer
import SeedCleanup.Json.Token
import SeedCleanup.Proofs.TextTheorems

/-!
# Numerals of documents

A numeral begins with a digit or a minus sign and goes on with characters that can stand in a
numeral (`startsNumeral_of_parts?`), so the scanner takes it in as a whole. The numeral of an
integer that fits sixty-four bits is read as that integer (`Number.readsBack_ofInt`).
-/

namespace SeedCleanup

open SeedCleanup.Text

namespace Json.Numeral

open Token

/-! ## The characters of a numeral -/

theorem isNumeralChar_of_isDigit {c : Char} (h : c.isDigit = true) : isNumeralChar c = true := by
  rw [isNumeralChar, h, Bool.true_or]

theorem isDigit_of_mem_takeWhile {c : Char} {s : List Char} (h : c ∈ s.takeWhile Char.isDigit) :
    c.isDigit = true := List.mem_takeWhile_imp h

/-- The whole part is a list of digits with at least one, and the rest is what stands behind it. -/
theorem wholePart?_eq_some {s whole rest : List Char} (h : wholePart? s = some (whole, rest)) :
    whole ≠ [] ∧ (∀ c ∈ whole, c.isDigit = true) ∧ s = whole ++ rest := by
  unfold wholePart? at h
  dsimp only at h
  split at h
  · exact nomatch h
  · rename_i hdigits
    obtain ⟨rfl, rfl⟩ := Prod.mk.inj (Option.some.inj h)
    have hne : ¬(s.takeWhile Char.isDigit).isEmpty = true := fun hempty =>
      hdigits (by rw [hempty, Bool.true_or])
    exact ⟨fun hnil => hne (List.isEmpty_iff.2 hnil), fun c hc => isDigit_of_mem_takeWhile hc,
      List.takeWhile_append_dropWhile.symm⟩

theorem fractionPart?_eq_some {s rest : List Char} {fraction : Option (List Char)}
    (h : fractionPart? s = some (fraction, rest)) :
    ∃ text, s = text ++ rest ∧ ∀ c ∈ text, isNumeralChar c = true := by
  unfold fractionPart? at h
  split at h
  · rename_i digits
    dsimp only at h
    split at h
    · exact nomatch h
    · obtain ⟨-, rfl⟩ := Prod.mk.inj (Option.some.inj h)
      refine ⟨'.' :: digits.takeWhile Char.isDigit, ?_, ?_⟩
      · rw [List.cons_append, List.takeWhile_append_dropWhile]
      · intro c hc
        rcases List.mem_cons.1 hc with rfl | hc
        · rfl
        · exact isNumeralChar_of_isDigit (isDigit_of_mem_takeWhile hc)
  · obtain ⟨-, rfl⟩ := Prod.mk.inj (Option.some.inj h)
    exact ⟨[], rfl, fun c hc => absurd hc List.not_mem_nil⟩

theorem isNumeralChar_of_exponentParts {s : List Char} {exponent : Bool × List Char}
    (h : exponentParts s = some exponent) : ∀ c ∈ s, isNumeralChar c = true := by
  unfold exponentParts at h
  split at h
  rename_i negative digits hsign
  split at h
  · exact nomatch h
  · rename_i hall
    rw [Bool.or_eq_true, not_or, Bool.not_eq_true', Bool.not_eq_false] at hall
    have hdigits : ∀ c ∈ digits, isNumeralChar c = true := fun c hc =>
      isNumeralChar_of_isDigit (List.all_eq_true.1 hall.2 c hc)
    split at hsign
    · obtain ⟨-, rfl⟩ := Prod.mk.inj hsign
      exact List.forall_mem_cons.2 ⟨rfl, hdigits⟩
    · obtain ⟨-, rfl⟩ := Prod.mk.inj hsign
      exact List.forall_mem_cons.2 ⟨rfl, hdigits⟩
    · obtain ⟨-, rfl⟩ := Prod.mk.inj hsign
      exact hdigits

theorem isNumeralChar_of_exponentPart? {s : List Char} {exponent : Option (Bool × List Char)}
    (h : exponentPart? s = some exponent) : ∀ c ∈ s, isNumeralChar c = true := by
  unfold exponentPart? at h
  split at h
  · exact fun c hc => absurd hc List.not_mem_nil
  · split at h
    · rename_i hmark
      obtain ⟨e, he, -⟩ := Option.map_eq_some_iff.1 h
      refine List.forall_mem_cons.2 ⟨?_, isNumeralChar_of_exponentParts he⟩
      rcases hmark with rfl | rfl <;> rfl
    · cases h

/-- A text whose first character begins a numeral and whose others can stand in one. -/
def StartsNumeral : List Char → Prop
  | [] => False
  | c :: rest => (c == '-' || c.isDigit) = true ∧ ∀ d ∈ rest, isNumeralChar d = true

theorem sign_eq {s rest : List Char} {negative : Bool} (h : sign s = (negative, rest)) :
    s = if negative then '-' :: rest else rest := by
  unfold sign at h
  split at h
  all_goals
    obtain ⟨rfl, rfl⟩ := Prod.mk.inj h
    rfl

theorem startsNumeral_of_parts? {s : List Char} {p : Parts} (h : parts? s = some p) :
    StartsNumeral s := by
  unfold parts? at h
  rcases hsign : sign s with ⟨negative, unsigned⟩
  rw [hsign] at h
  obtain ⟨⟨whole, behindWhole⟩, hwhole, h⟩ := Option.bind_eq_some_iff.1 h
  obtain ⟨⟨fraction, behindPoint⟩, hfraction, h⟩ := Option.bind_eq_some_iff.1 h
  obtain ⟨exponent, hexponent, -⟩ := Option.bind_eq_some_iff.1 h
  obtain ⟨hne, hdigits, rfl⟩ := wholePart?_eq_some hwhole
  obtain ⟨text, rfl, htext⟩ := fractionPart?_eq_some hfraction
  have hbehind : ∀ c ∈ text ++ behindPoint, isNumeralChar c = true := by
    intro c hc
    rcases List.mem_append.1 hc with hc | hc
    · exact htext c hc
    · exact isNumeralChar_of_exponentPart? hexponent c hc
  obtain ⟨first, others, rfl⟩ := List.exists_cons_of_ne_nil hne
  have hfirst : first.isDigit = true := hdigits first List.mem_cons_self
  have hothers : ∀ c ∈ others ++ (text ++ behindPoint), isNumeralChar c = true := by
    intro c hc
    rcases List.mem_append.1 hc with hc | hc
    · exact isNumeralChar_of_isDigit (hdigits c (List.mem_cons_of_mem _ hc))
    · exact hbehind c hc
  rw [sign_eq hsign]
  cases negative with
  | true => exact ⟨rfl, List.forall_mem_cons.2 ⟨isNumeralChar_of_isDigit hfirst, hothers⟩⟩
  | false => exact ⟨by rw [hfirst, Bool.or_true], hothers⟩

/-! ## Digits -/

/-- Only zero is written with a zero in front. -/
theorem head?_toDigits {n : Nat} (h : n ≠ 0) : (Nat.toDigits 10 n).head? ≠ some '0' := by
  induction n using Nat.strongRecOn with
  | ind n ih =>
    by_cases hn : n < 10
    · rw [Nat.toDigits_of_lt_base hn]
      interval_cases n
      · exact absurd rfl h
      all_goals decide
    · have hfront : n / 10 ≠ 0 := by omega
      have hne : Nat.toDigits 10 (n / 10) ≠ [] := Nat.toDigits_ne_nil
      obtain ⟨first, others, hdigits⟩ := List.exists_cons_of_ne_nil hne
      have hfirst := ih (n / 10) (by omega) hfront
      rw [Nat.toDigits_of_base_le (by decide) (by omega), hdigits]
      rwa [hdigits] at hfirst

theorem wholePart?_toDigits (n : Nat) :
    wholePart? (Nat.toDigits 10 n) = some (Nat.toDigits 10 n, []) := by
  have hdigits : ∀ c ∈ Nat.toDigits 10 n, c.isDigit = true := fun c hc =>
    Nat.isDigit_of_mem_toDigits (by decide) (by decide) hc
  have htake : (Nat.toDigits 10 n).takeWhile Char.isDigit = Nat.toDigits 10 n :=
    List.takeWhile_eq_self_iff.2 hdigits
  have hdrop : (Nat.toDigits 10 n).dropWhile Char.isDigit = [] :=
    List.dropWhile_eq_nil_iff.2 hdigits
  have hne : (Nat.toDigits 10 n).isEmpty = false :=
    List.isEmpty_eq_false_iff.2 Nat.toDigits_ne_nil
  have hzero : ((Nat.toDigits 10 n).head? == some '0' && decide (1 < (Nat.toDigits 10 n).length))
      = false := by
    by_cases hn : n = 0
    · subst hn
      decide
    · rw [beq_false_of_ne (head?_toDigits hn), Bool.false_and]
  simp only [wholePart?, htake, hdrop, hne, hzero, Bool.or_self, Bool.false_eq_true, if_false]

theorem sign_toDigits (n : Nat) : sign (Nat.toDigits 10 n) = (false, Nat.toDigits 10 n) := by
  unfold sign
  split
  · rename_i rest heq
    exact absurd (heq ▸ List.mem_cons_self) (hyphen_notMem_toDigits n)
  · rfl

theorem parts?_toDigits (n : Nat) :
    parts? (Nat.toDigits 10 n) = some ⟨false, Nat.toDigits 10 n, none, none⟩ := by
  unfold parts?
  rw [sign_toDigits]
  dsimp only
  rw [wholePart?_toDigits]
  rfl

theorem parts?_neg_toDigits (n : Nat) :
    parts? ('-' :: Nat.toDigits 10 n) = some ⟨true, Nat.toDigits 10 n, none, none⟩ := by
  have hsign : sign ('-' :: Nat.toDigits 10 n) = (true, Nat.toDigits 10 n) := rfl
  unfold parts?
  rw [hsign]
  dsimp only
  rw [wholePart?_toDigits]
  rfl

end Json.Numeral

/-! ## Numbers that are read back -/

namespace Number

open Json.Numeral

/-- The numeral of a number is read as that number. -/
def ReadsBack (n : Number) : Prop := (parts? (Json.writtenNumber n)).bind value? = some n

instance (n : Number) : Decidable n.ReadsBack := inferInstanceAs (Decidable (_ = some n))

theorem readsBack_whole (n : UInt64) : (whole n).ReadsBack := by
  have hlt : n.toNat < UInt64.size := n.toNat_lt
  show (parts? (Nat.toDigits 10 n.toNat)).bind value? = _
  rw [parts?_toDigits, Option.bind_some, value?, decimalValue_toDigits]
  show (if (true && decide (n.toNat < UInt64.size)) = true then _ else _) = _
  rw [if_pos (by rw [decide_eq_true hlt, Bool.true_and]), UInt64.ofNat_toNat]

theorem readsBack_below {n : Int64} (h : n.toInt < 0) : (below n).ReadsBack := by
  have hlow : -2 ^ 63 ≤ n.toInt := n.le_toInt
  have hpos : 0 < n.toInt.natAbs := by omega
  have hfits : n.toInt.natAbs ≤ Nat.pow 2 63 := by
    show n.toInt.natAbs ≤ 2 ^ 63
    omega
  have hneg : -(n.toInt.natAbs : Int) = n.toInt := by omega
  show (parts? (toString n.toInt).toList).bind value? = _
  rw [toList_toString_of_neg h, parts?_neg_toDigits, Option.bind_some, value?,
    decimalValue_toDigits]
  show (if (true && decide (0 < n.toInt.natAbs) && decide (n.toInt.natAbs ≤ Nat.pow 2 63)) = true
    then _ else _) = _
  rw [decide_eq_true hpos, decide_eq_true hfits, Bool.true_and, Bool.true_and, if_pos rfl, hneg,
    Int64.ofInt_toInt]

/-- An integer that fits sixty-four bits, with or without a sign, is read back. -/
theorem readsBack_ofInt {i : Int} (hlow : -2 ^ 63 ≤ i) (hhigh : i < 2 ^ 64) :
    (ofInt i).ReadsBack := by
  unfold ofInt
  split
  · rw [if_pos (by exact hhigh)]
    exact readsBack_whole _
  · rename_i hneg
    rw [if_pos (by exact hlow)]
    refine readsBack_below ?_
    rw [Int64.toInt_ofInt_of_le (by omega) (by omega)]
    omega

/-- The integer of a number that fits sixty-four bits. -/
theorem toInt?_ofInt {i : Int} (hlow : -2 ^ 63 ≤ i) (hhigh : i < 2 ^ 64) :
    (ofInt i).toInt? = some i := by
  unfold ofInt
  split
  · rename_i hnonneg
    have hfits : i.toNat < UInt64.size := by
      show i.toNat < 2 ^ 64
      omega
    rw [if_pos (by exact hhigh), toInt?, UInt64.toNat_ofNat_of_lt' hfits,
      Int.toNat_of_nonneg hnonneg]
  · rename_i hneg
    rw [if_pos (by exact hlow), toInt?, Int64.toInt_ofInt_of_le (by omega) (by omega)]

end Number

end SeedCleanup

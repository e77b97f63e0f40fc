/-!
# Bytes of texts

The bytes that write a text, and the text that bytes write. Bytes that write no character are read
as a mark in their place, one for each longest part that could have begun a character.
-/

namespace SeedCleanup.Text

/-- The bytes of a text. -/
def utf8 (s : List Char) : List UInt8 := (String.ofList s).toUTF8.toList

/-- The mark for bytes that write no character. -/
def replacement : Char := '\uFFFD'

/-- What the first byte of a longer character says: its share of the number, how many bytes follow,
and the bounds of the first of them. -/
def lead? (b : Nat) : Option (Nat × Nat × Nat × Nat) :=
  if b < 0xC2 then none
  else if b ≤ 0xDF then some (b - 0xC0, 1, 0x80, 0xBF)
  else if b = 0xE0 then some (0, 2, 0xA0, 0xBF)
  else if b = 0xED then some (0xD, 2, 0x80, 0x9F)
  else if b ≤ 0xEF then some (b - 0xE0, 2, 0x80, 0xBF)
  else if b = 0xF0 then some (0, 3, 0x90, 0xBF)
  else if b ≤ 0xF3 then some (b - 0xF0, 3, 0x80, 0xBF)
  else if b = 0xF4 then some (4, 3, 0x80, 0x8F)
  else none

/-- Reads the bytes that follow the first of a character, while they lie in their bounds. -/
def following (low high : Nat) : Nat → Nat → List UInt8 → Option Nat × List UInt8
  | 0, n, rest => (some n, rest)
  | _ + 1, _, [] => (none, [])
  | count + 1, n, b :: rest =>
    if low ≤ b.toNat ∧ b.toNat ≤ high then
      following 0x80 0xBF count (n * 64 + b.toNat % 64) rest
    else (none, b :: rest)

/-- Reading on takes nothing back. -/
theorem length_following_le (low high count n : Nat) (s : List UInt8) :
    (following low high count n s).2.length ≤ s.length := by
  induction count generalizing low high n s with
  | zero => simp [following]
  | succ count ih =>
    cases s with
    | nil => simp [following]
    | cons b rest =>
      unfold following
      split
      · exact Nat.le_succ_of_le (ih _ _ _ _)
      · exact Nat.le_refl _

/-- The character that starts with a byte, if the bytes write one, and the rest. -/
def nextChar (b : UInt8) (rest : List UInt8) : Option Char × List UInt8 :=
  if b.toNat < 0x80 then (some (Char.ofNat b.toNat), rest)
  else
    match lead? b.toNat with
    | none => (none, rest)
    | some (n, count, low, high) =>
      let (number?, rest) := following low high count n rest
      (number?.map Char.ofNat, rest)

/-- A character takes at least its first byte. -/
theorem length_nextChar_le (b : UInt8) (rest : List UInt8) :
    (nextChar b rest).2.length ≤ rest.length := by
  unfold nextChar
  split
  · exact Nat.le_refl _
  · split
    · exact Nat.le_refl _
    · exact length_following_le _ _ _ _ _

/-- The characters that bytes write; nothing stands for bytes that write none. -/
def charsOfUtf8 : List UInt8 → List (Option Char)
  | [] => []
  | b :: rest => (nextChar b rest).1 :: charsOfUtf8 (nextChar b rest).2
termination_by s => s.length
decreasing_by exact Nat.lt_succ_of_le (length_nextChar_le b rest)

/-- The text that bytes write. -/
def decodeUtf8? (bytes : List UInt8) : Option (List Char) := (charsOfUtf8 bytes).mapM id

/-- The text that bytes write, with marks for what is no text. -/
def decodeUtf8 (bytes : List UInt8) : List Char := (charsOfUtf8 bytes).map (·.getD replacement)

end SeedCleanup.Text

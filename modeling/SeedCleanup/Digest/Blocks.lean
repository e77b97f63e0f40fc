import SeedCleanup.Text.Chars

/-!
# Message blocks

The digests read a message as blocks of sixteen 32-bit words, the highest byte of a word first. The
message is closed by a one bit, zeros up to the end of a block, and its length in bits.
-/

namespace SeedCleanup.Digest

/-- The bytes of a number, the highest first. -/
def bigEndian : Nat → Nat → List UInt8
  | 0, _ => []
  | count + 1, n => UInt8.ofNat (n / Nat.pow 256 count) :: bigEndian count n

/-- The bytes that close a message of a given length. -/
def padding (length : Nat) : List UInt8 :=
  0x80 :: List.replicate ((119 - length % 64) % 64) 0 ++ bigEndian 8 (length * 8)

/-- The 32-bit words of a list of bytes; bytes that fill no word are dropped. -/
def words : List UInt8 → List UInt32
  | a :: b :: c :: d :: rest =>
    (a.toUInt32 <<< 24 ||| b.toUInt32 <<< 16 ||| c.toUInt32 <<< 8 ||| d.toUInt32) :: words rest
  | _ => []

/-- Lists of sixteen words; words that fill no list are dropped. -/
def chunks (l : List UInt32) : List (List UInt32) :=
  if _h : 16 ≤ l.length then l.take 16 :: chunks (l.drop 16) else []
termination_by l.length
decreasing_by simp only [List.length_drop]; omega

/-- The blocks of a message. -/
def blocks (message : List UInt8) : List (List UInt32) :=
  chunks (words (message ++ padding message.length))

/-- Rotate a word to the left. -/
def rotateLeft (x : UInt32) (n : UInt32) : UInt32 := (x <<< n) ||| (x >>> (32 - n))

/-- Rotate a word to the right. -/
def rotateRight (x : UInt32) (n : UInt32) : UInt32 := (x >>> n) ||| (x <<< (32 - n))

/-- Extend a block to `count` words. A word is computed from the words before it, which are held in
reverse. -/
def extend (next : List UInt32 → UInt32) : Nat → List UInt32 → List UInt32
  | 0, reversed => reversed
  | count + 1, reversed => extend next count (next reversed :: reversed)

/-- The word that stands some places back, counted from one. -/
def back (reversed : List UInt32) (places : Nat) : UInt32 := reversed.getD (places - 1) 0

/-- The hexadecimal text of words. -/
def hex (l : List UInt32) : String :=
  String.ofList <| l.flatMap fun w =>
    (bigEndian 4 w.toNat).flatMap fun b => [Text.hexDigit (b.toNat / 16), Text.hexDigit b.toNat]

end SeedCleanup.Digest

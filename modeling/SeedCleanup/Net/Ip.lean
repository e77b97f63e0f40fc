import SeedCleanup.Text.Chars

/-!
# Internet addresses

Addresses of four octets or eight groups of sixteen bits, and their texts. The longest run of zero
groups is left out of a text, if it has two groups at least.
-/

namespace SeedCleanup

open SeedCleanup.Text

/-- An internet address. -/
inductive IpAddress where
  | v4 (a b c d : UInt8)
  /-- Eight groups. -/
  | v6 (groups : List UInt16)
deriving DecidableEq, Inhabited

namespace IpAddress

/-! ## Reading -/

/-- Reads an octet: a decimal number below 256 without leading zeros. -/
def octet? (s : List Char) : Option UInt8 :=
  match numeral? s with
  | some n =>
    if n < 256 && decide (s.length ≤ 3) && !(s.head? == some '0' && s.length != 1) then
      some (UInt8.ofNat n)
    else none
  | none => none

/-- Reads four octets with points between them. -/
def octets? (s : List Char) : Option (UInt8 × UInt8 × UInt8 × UInt8) :=
  match splitOnChar '.' s with
  | [a, b, c, d] => do some (← octet? a, ← octet? b, ← octet? c, ← octet? d)
  | _ => none

/-- Reads a group: one to four hexadecimal digits. -/
def group? (s : List Char) : Option UInt16 :=
  if s.isEmpty || decide (4 < s.length) || !s.all isHex then none
  else some (UInt16.ofNat (hexNumber s))

/-- Two groups that hold four octets. -/
def groupsOfOctets (o : UInt8 × UInt8 × UInt8 × UInt8) : List UInt16 :=
  [UInt16.ofNat (o.1.toNat * 256 + o.2.1.toNat), UInt16.ofNat (o.2.2.1.toNat * 256 + o.2.2.2.toNat)]

/-- Reads groups from pieces. Four octets may stand for the last two groups. -/
def groups? (octetsAllowed : Bool) : List (List Char) → Option (List UInt16)
  | [] => some []
  | [piece] =>
    match group? piece with
    | some g => some [g]
    | none => if octetsAllowed then (octets? piece).map groupsOfOctets else none
  | piece :: rest => do
    let g ← group? piece
    let gs ← groups? octetsAllowed rest
    some (g :: gs)

/-- Reads groups with colons between them, or nothing. -/
def colonGroups? (octetsAllowed : Bool) (s : List Char) : Option (List UInt16) :=
  if s.isEmpty then some [] else groups? octetsAllowed (splitOnChar ':' s)

/-- The text before and after the first double colon. -/
def cutDoubleColon? : List Char → Option (List Char × List Char)
  | [] => none
  | c :: rest =>
    match c, rest with
    | ':', ':' :: after => some ([], after)
    | _, _ => (cutDoubleColon? rest).map fun (before, after) => (c :: before, after)

/-- Reads an address of eight groups. A double colon stands for at least one zero group. -/
def parseV6 (s : List Char) : Option IpAddress :=
  match cutDoubleColon? s with
  | none => ((colonGroups? true s).filter fun gs => gs.length == 8).map .v6
  | some (before, after) => do
    let head ← colonGroups? false before
    let tail ← colonGroups? true after
    let count := head.length + tail.length
    if 7 < count then none else some (.v6 (head ++ List.replicate (8 - count) 0 ++ tail))

/-- Reads an address. -/
def parse (text : String) : Option IpAddress :=
  match octets? text.toList with
  | some (a, b, c, d) => some (.v4 a b c d)
  | none => parseV6 text.toList

/-! ## Writing -/

/-- How many groups at the start are zero. -/
def zerosAtStart (groups : List UInt16) : Nat := (groups.takeWhile (· == 0)).length

/-- Where the longest run of zeros starts and how long it is; of equal runs the first counts. -/
def longestZeros : List UInt16 → Nat × Nat
  | [] => (0, 0)
  | g :: rest =>
    let here := zerosAtStart (g :: rest)
    let (start, count) := longestZeros rest
    if count ≤ here then (0, here) else (start + 1, count)

/-- Groups with colons between them. -/
def groupsText (groups : List UInt16) : String :=
  ":".intercalate (groups.map fun g => String.ofList (hexText g.toNat))

/-- Eight groups, the longest run of zeros left out. -/
def compressed (groups : List UInt16) : String :=
  let (start, count) := longestZeros groups
  if 2 ≤ count then
    groupsText (groups.take start) ++ "::" ++ groupsText (groups.drop (start + count))
  else groupsText groups

/-- Four octets with points between them. -/
def octetsText (a b c d : UInt8) : String := ".".intercalate ([a, b, c, d].map toString)

/-- The text of an address. Octets that are held in groups are written as octets. -/
def text : IpAddress → String
  | v4 a b c d => octetsText a b c d
  | v6 [0, 0, 0, 0, 0, 0xFFFF, x, y] =>
    "::ffff:" ++ octetsText (x >>> 8).toUInt8 x.toUInt8 (y >>> 8).toUInt8 y.toUInt8
  | v6 groups => compressed groups

end IpAddress

end SeedCleanup

import SeedCleanup.Text.Chars
import SeedCleanup.Text.CaseTable

/-!
# Small letters

Text in small letters, by the full case mapping: most capitals have one small letter, the dotted
capital I becomes two characters, and a capital sigma at the end of a word becomes a final sigma.
-/

namespace SeedCleanup.Text

/-- The distance from a capital beyond ASCII to its small letter. -/
def capitalShift? (n : Nat) : Option Int :=
  (capitalRuns.find? fun (first, last, step, _) =>
    decide (first ≤ n) && decide (n ≤ last) && (n - first) % step == 0).map (·.2.2.2)

/-- The small letters of one character. -/
def smallLetters (c : Char) : List Char :=
  if c.toNat < 0x80 then [c.toLower]
  else if c.toNat = 0x130 then ['i', Char.ofNat 0x307]
  else match capitalShift? c.toNat with
    | some shift => [Char.ofNat (c.toNat + shift).toNat]
    | none => [c]

/-- Whether a character has a case. -/
def isCased (c : Char) : Bool := inRanges casedRanges c.toNat

/-- Whether the search for a cased neighbour passes over a character. -/
def isCaseIgnorable (c : Char) : Bool := inRanges caseIgnorableRanges c.toNat

/-- Whether the nearest character that counts is cased. -/
def meetsCased (s : List Char) : Bool :=
  match s.dropWhile isCaseIgnorable with
  | [] => false
  | c :: _ => isCased c

/-- The small letters of a text, given the characters before it in reverse. -/
def smallText (before : List Char) : List Char → List Char
  | [] => []
  | c :: rest =>
    let letters :=
      if c.toNat = 0x3A3 then
        [Char.ofNat (if meetsCased before && !meetsCased rest then 0x3C2 else 0x3C3)]
      else smallLetters c
    letters ++ smallText (c :: before) rest

/-- A text in small letters. -/
def lowercase (s : String) : String := String.ofList (smallText [] s.toList)

end SeedCleanup.Text

import SeedCleanup.Json.Printer
import SeedCleanup.Json.Token

/-!
# Texts between quotes

Whatever characters a text has, the scanner gets it back from what was written between quotes
(`scan_writtenText`). A character is written as itself or as an escape, none of which ends the text
early, and every escape is read as the character that it was written for.
-/

namespace SeedCleanup.Json.Token

open SeedCleanup.Text

/-! ## Characters -/

/-- A digit is read as the number that it writes, and is neither a quote nor a backslash. -/
theorem hexDigit_of_lt : ∀ n < 16, hexValue? (hexDigit n) = some n ∧
    hexDigit n ≠ '"' ∧ hexDigit n ≠ '\\' := by decide

theorem hexDigit_spec (n : Nat) : hexValue? (hexDigit n) = some (n % 16) ∧
    hexDigit n ≠ '"' ∧ hexDigit n ≠ '\\' := by
  have hmod : hexDigit n = hexDigit (n % 16) := by
    unfold hexDigit
    rw [Nat.mod_mod]
  rw [hmod]
  exact hexDigit_of_lt _ (Nat.mod_lt _ (by decide))

/-- The forms in which a character is written. -/
inductive WrittenAs (c : Char) : List Char → Prop
  | itself (hquote : c ≠ '"') (hescape : c ≠ '\\') (hcontrol : ¬c.toNat < 0x20) : WrittenAs c [c]
  | letter {l : Char} (hl : unescapeLetter? l = some c) (hu : l ≠ 'u') : WrittenAs c ['\\', l]
  | code (hcontrol : c.toNat < 0x20) :
    WrittenAs c ['\\', 'u', '0', '0', hexDigit (c.toNat / 16), hexDigit c.toNat]

theorem writtenAs_writtenChar (c : Char) : WrittenAs c (writtenChar c) := by
  unfold writtenChar
  split
  case h_8 hquote hescape _ _ _ _ _ =>
    split
    · exact .code ‹_›
    · exact .itself hquote hescape ‹_›
  all_goals exact .letter rfl (by decide)

/-- What was written for a character is read as its code point. -/
theorem WrittenAs.codeUnits_append {c : Char} {text : List Char} (h : WrittenAs c text)
    (rest : List Char) : codeUnits (text ++ rest) = (codeUnits rest).map (c.toNat :: ·) := by
  cases h with
  | itself hquote hescape hcontrol =>
    have hplain : ¬(c.toNat < 0x20 ∨ c = '\\') := not_or.2 ⟨hcontrol, hescape⟩
    show codeUnits (c :: rest) = _
    rw [codeUnits, if_neg hplain]
    · cases codeUnits rest <;> rfl
    · exact fun _ _ _ _ _ heq _ => hescape heq
    · exact fun _ _ heq _ => hescape heq
  | @letter l hl hu =>
    show codeUnits ('\\' :: l :: rest) = _
    rw [codeUnits, hl]
    · cases codeUnits rest <;> rfl
    · exact fun _ _ _ _ _ heq _ => hu heq
  | code hcontrol =>
    have hhigh := (hexDigit_spec (c.toNat / 16)).1
    have hlow := (hexDigit_spec c.toNat).1
    have hzero : hexValue? '0' = some 0 := rfl
    have hvalue : numeralValue 16 [0, 0, c.toNat / 16 % 16, c.toNat % 16] = c.toNat := by
      simp only [numeralValue, List.foldl_cons, List.foldl_nil]
      omega
    show codeUnits ('\\' :: 'u' :: '0' :: '0' :: _ :: _ :: rest) = _
    rw [codeUnits, hzero, hhigh, hlow]
    cases codeUnits rest with
    | none => rfl
    | some units =>
      show some (numeralValue 16 [0, 0, c.toNat / 16 % 16, c.toNat % 16] :: units) = _
      rw [hvalue]
      rfl

theorem codeUnits_written (text : List Char) :
    codeUnits (text.flatMap writtenChar) = some (text.map Char.toNat) := by
  induction text with
  | nil => rfl
  | cons c rest ih =>
    rw [List.flatMap_cons, (writtenAs_writtenChar c).codeUnits_append, ih]
    rfl

/-- No character is half of a surrogate pair. -/
theorem not_surrogate (c : Char) : c.toNat < 0xD800 ∨ 0xE000 ≤ c.toNat := by
  have hvalid : c.toNat.isValidChar := c.valid
  unfold Nat.isValidChar at hvalid
  omega

theorem joinSurrogates_map_toNat (text : List Char) :
    joinSurrogates (text.map Char.toNat) = some text := by
  match text with
  | [] => rfl
  | [c] =>
    have hc := not_surrogate c
    have halone : ¬(0xD800 ≤ c.toNat ∧ c.toNat < 0xE000) := by omega
    show (if 0xD800 ≤ c.toNat ∧ c.toNat < 0xE000 then none else some [Char.ofNat c.toNat]) = _
    rw [if_neg halone, Char.ofNat_toNat]
  | c :: d :: rest =>
    have hc := not_surrogate c
    have hhigh : ¬(0xD800 ≤ c.toNat ∧ c.toNat < 0xDC00) := by omega
    have hlow : ¬(0xDC00 ≤ c.toNat ∧ c.toNat < 0xE000) := by omega
    have ih : joinSurrogates (d.toNat :: rest.map Char.toNat) = some (d :: rest) :=
      joinSurrogates_map_toNat (d :: rest)
    show joinSurrogates (c.toNat :: d.toNat :: rest.map Char.toNat) = _
    rw [joinSurrogates, if_neg hhigh, if_neg hlow, ih, Char.ofNat_toNat]
    rfl

/-- A text is the token of what was written for it. -/
theorem ofText?_written (s : String) :
    ofText? (s.toList.flatMap writtenChar) = some (.str (some s)) := by
  rw [ofText?, codeUnits_written, Option.map_some, joinSurrogates_map_toNat, Option.map_some,
    String.ofList_toList]

/-! ## The scanner -/

/-- Take in characters one after the other. -/
def scan (s : Scanned) (text : List Char) : Option Scanned := text.foldlM scanChar s

theorem scan_cons (s : Scanned) (c : Char) (text : List Char) :
    scan s (c :: text) = (scanChar s c).bind (scan · text) := rfl

theorem scan_append (s : Scanned) (a b : List Char) :
    scan s (a ++ b) = (scan s a).bind (scan · b) := List.foldlM_append

/-- Inside a text only a quote and a backslash are special. -/
theorem scanChar_text {c : Char} (hquote : c ≠ '"') (hescape : c ≠ '\\') (tokens : List Token)
    (read : List Char) :
    scanChar ⟨tokens, .text read⟩ c = some ⟨tokens, .text (c :: read)⟩ := by
  show (if c = '"' then _ else if c = '\\' then _ else _) = _
  rw [if_neg hquote, if_neg hescape]

/-- A character behind a backslash never ends the text. -/
theorem scan_escaped (tokens : List Token) (c : Char) (read : List Char) :
    scan ⟨tokens, .text read⟩ ['\\', c] = some ⟨tokens, .text (c :: '\\' :: read)⟩ := rfl

/-- Nothing that was written for a character ends the text that it is part of. -/
theorem WrittenAs.scan_eq {c : Char} {text : List Char} (h : WrittenAs c text)
    (tokens : List Token) (read : List Char) :
    scan ⟨tokens, .text read⟩ text = some ⟨tokens, .text (text.reverse ++ read)⟩ := by
  cases h with
  | itself hquote hescape hcontrol =>
    rw [scan_cons, scanChar_text hquote hescape]
    rfl
  | letter hl hu => exact scan_escaped tokens _ read
  | code hcontrol =>
    have hdigit (n : Nat) := (hexDigit_spec n).2
    have hsplit (a b : Char) : ['\\', 'u', '0', '0', a, b] = ['\\', 'u'] ++ ['0', '0', a, b] := rfl
    rw [hsplit, scan_append, scan_escaped, Option.bind_some, scan_cons,
      scanChar_text (by decide) (by decide), Option.bind_some, scan_cons,
      scanChar_text (by decide) (by decide), Option.bind_some, scan_cons,
      scanChar_text (hdigit _).1 (hdigit _).2, Option.bind_some, scan_cons,
      scanChar_text (hdigit _).1 (hdigit _).2, Option.bind_some]
    rfl

theorem scan_writtenChars (tokens : List Token) (text read : List Char) :
    scan ⟨tokens, .text read⟩ (text.flatMap writtenChar)
      = some ⟨tokens, .text ((text.flatMap writtenChar).reverse ++ read)⟩ := by
  induction text generalizing read with
  | nil => rfl
  | cons c rest ih =>
    rw [List.flatMap_cons, scan_append, (writtenAs_writtenChar c).scan_eq, Option.bind_some, ih,
      List.reverse_append, List.append_assoc]

/-- The scanner gets a text back from what was written between quotes. -/
theorem scan_writtenText (tokens : List Token) (s : String) :
    scan ⟨tokens, .between⟩ (writtenText s) = some ⟨.str (some s) :: tokens, .between⟩ := by
  have hopen : scanChar ⟨tokens, .between⟩ '"' = some ⟨tokens, .text []⟩ := rfl
  have hclose : scanChar ⟨tokens, .text (s.toList.flatMap writtenChar).reverse⟩ '"'
      = some ⟨.str (some s) :: tokens, .between⟩ := by
    show (ofText? (List.reverse (List.reverse _))).bind _ = _
    rw [List.reverse_reverse, ofText?_written]
    rfl
  rw [writtenText, List.cons_append, scan_cons, hopen, Option.bind_some, scan_append,
    scan_writtenChars, Option.bind_some, List.append_nil, scan_cons, hclose]
  rfl

end SeedCleanup.Json.Token

import SeedCleanup.Json.Numeral

/-!
# Tokens of a document

The text of a document is cut into tokens one character at a time: `Scan` is what the scanner
remembers between two characters. A token that is well formed but has no value, such as a text with
half a surrogate pair, is kept as a token without a value.
-/

namespace SeedCleanup.Json

open SeedCleanup.Text

/-- The smallest parts of a document. -/
inductive Token where
  | null
  | bool (b : Bool)
  | num (n : Option Number)
  | str (s : Option String)
  | openItems
  | closeItems
  | openMembers
  | closeMembers
  | comma
  | colon

namespace Token

/-! ## Texts -/

/-- The character that an escape letter stands for. -/
def unescapeLetter? (c : Char) : Option Char :=
  match c with
  | '"' => some '"'
  | '\\' => some '\\'
  | '/' => some '/'
  | 'b' => some '\x08'
  | 'f' => some '\x0c'
  | 'n' => some '\n'
  | 'r' => some '\r'
  | 't' => some '\t'
  | _ => none

/-- The code points and surrogates that stand between the quotes of a text. Nothing if an escape is
not one, or if a control character stands for itself. -/
def codeUnits : List Char → Option (List Nat)
  | [] => some []
  | '\\' :: 'u' :: a :: b :: c :: d :: rest => do
    let a ← hexValue? a
    let b ← hexValue? b
    let c ← hexValue? c
    let d ← hexValue? d
    let units ← codeUnits rest
    some (numeralValue 16 [a, b, c, d] :: units)
  | '\\' :: letter :: rest => do
    let c ← unescapeLetter? letter
    let units ← codeUnits rest
    some (c.toNat :: units)
  | c :: rest => do
    if c.toNat < 0x20 ∨ c = '\\' then none
    let units ← codeUnits rest
    some (c.toNat :: units)

/-- Join each pair of surrogates. Nothing if a surrogate stands alone. -/
def joinSurrogates : List Nat → Option (List Char)
  | [] => some []
  | high :: low :: rest =>
    if 0xD800 ≤ high ∧ high < 0xDC00 then
      if 0xDC00 ≤ low ∧ low < 0xE000 then
        (joinSurrogates rest).map
          (Char.ofNat (0x10000 + (high - 0xD800) * 0x400 + (low - 0xDC00)) :: ·)
      else none
    else if 0xDC00 ≤ high ∧ high < 0xE000 then none
    else (joinSurrogates (low :: rest)).map (Char.ofNat high :: ·)
  | [unit] => if 0xD800 ≤ unit ∧ unit < 0xE000 then none else some [Char.ofNat unit]

/-- The token of a text, given what stands between its quotes. -/
def ofText? (body : List Char) : Option Token :=
  (codeUnits body).map fun units => .str ((joinSurrogates units).map String.ofList)

/-! ## Words and numerals -/

/-- The token of a word. -/
def ofWord? (word : List Char) : Option Token :=
  if word == ['n', 'u', 'l', 'l'] then some .null
  else if word == ['t', 'r', 'u', 'e'] then some (.bool true)
  else if word == ['f', 'a', 'l', 's', 'e'] then some (.bool false)
  else none

/-- The token of a numeral. -/
def ofNumeral? (numeral : List Char) : Option Token :=
  (Numeral.parts? numeral).map fun p => .num (Numeral.value? p)

/-! ## The scanner -/

/-- What was begun before the next character. The characters read so far are held in reverse. -/
inductive Scan where
  | between
  | word (read : List Char)
  | numeral (read : List Char)
  | text (read : List Char)
  | escape (read : List Char)

/-- Whether a character can stand in a numeral. -/
def isNumeralChar (c : Char) : Bool := c.isDigit || "+-.eE".toList.contains c

/-- The tokens read so far in reverse, and what was begun. -/
structure Scanned where
  tokens : List Token
  scan : Scan

/-- Begin a token with a character that belongs to no token before it. -/
def begin (tokens : List Token) (c : Char) : Option Scanned :=
  match c with
  | ' ' => some ⟨tokens, .between⟩
  | '\t' => some ⟨tokens, .between⟩
  | '\n' => some ⟨tokens, .between⟩
  | '\r' => some ⟨tokens, .between⟩
  | '[' => some ⟨.openItems :: tokens, .between⟩
  | ']' => some ⟨.closeItems :: tokens, .between⟩
  | '\x7b' => some ⟨.openMembers :: tokens, .between⟩
  | '\x7d' => some ⟨.closeMembers :: tokens, .between⟩
  | ',' => some ⟨.comma :: tokens, .between⟩
  | ':' => some ⟨.colon :: tokens, .between⟩
  | '"' => some ⟨tokens, .text []⟩
  | _ =>
    if c == '-' || c.isDigit then some ⟨tokens, .numeral [c]⟩
    else if isLetter c then some ⟨tokens, .word [c]⟩
    else none

/-- Complete a word or a numeral. Nothing inside a text can be completed. -/
def complete (s : Scanned) : Option (List Token) :=
  match s.scan with
  | .between => some s.tokens
  | .word read => (ofWord? read.reverse).map (· :: s.tokens)
  | .numeral read => (ofNumeral? read.reverse).map (· :: s.tokens)
  | .text _ => none
  | .escape _ => none

/-- Take in one character. -/
def scanChar (s : Scanned) (c : Char) : Option Scanned :=
  match s.scan with
  | .between => begin s.tokens c
  | .word read =>
    if isLetter c then some ⟨s.tokens, .word (c :: read)⟩
    else do begin (← complete s) c
  | .numeral read =>
    if isNumeralChar c then some ⟨s.tokens, .numeral (c :: read)⟩
    else do begin (← complete s) c
  | .text read =>
    if c = '"' then do some ⟨(← ofText? read.reverse) :: s.tokens, .between⟩
    else if c = '\\' then some ⟨s.tokens, .escape (c :: read)⟩
    else some ⟨s.tokens, .text (c :: read)⟩
  | .escape read => some ⟨s.tokens, .text (c :: read)⟩

/-- The tokens of a text, if it is made of tokens. -/
def ofChars? (s : List Char) : Option (List Token) := do
  let scanned ← s.foldlM scanChar ⟨[], .between⟩
  (← complete scanned).reverse

end Token

end SeedCleanup.Json

import SeedCleanup.Regex.Basic
import SeedCleanup.Text.LetterTable

/-!
# Reading regular expressions

The reader keeps the groups that are open and adds to the innermost one. An option set inside a
group holds until the group ends. With the option for blanks, blanks and comments may stand between
any two parts.
-/

namespace SeedCleanup.Regex

open SeedCleanup.Text

/-- Why a text is no regular expression. -/
inductive PatternError where
  | unclosedGroup
  | unopenedGroup
  | lookaround
  | badGroupName
  | badOption
  | nothingToRepeat
  | badRepetition
  | badEscape
  | badClass
  | tooDeep
  | tooLarge
deriving DecidableEq, Inhabited

/-- The message of an error. -/
def PatternError.message : PatternError → String
  | unclosedGroup => "a group is not closed"
  | unopenedGroup => "a group is closed that was not opened"
  | lookaround => "assertions about the text around are not supported"
  | badGroupName => "the name of a group is missing, repeated or not allowed"
  | badOption => "an option is missing, repeated or unknown"
  | nothingToRepeat => "there is nothing to repeat"
  | badRepetition => "the bounds of a repetition are not allowed"
  | badEscape => "an escape is not known"
  | badClass => "a set of characters is not closed or not allowed"
  | tooDeep => "the expression nests too deep"
  | tooLarge => "the expression is too large"

/-- The options that change what is read. -/
structure Options where
  ignoreCase : Bool := false
  multiLine : Bool := false
  dotMatchesNewline : Bool := false
  anyLineEnd : Bool := false
  blanks : Bool := false
deriving Inhabited

/-! ## Blanks and comments -/

/-- Drop blanks and comments. A comment runs from a number sign to the end of its line. -/
def dropBlanks (inComment : Bool) : List Char → List Char
  | [] => []
  | c :: rest =>
    if inComment then dropBlanks (c != '\n') rest
    else if isBlank c then dropBlanks false rest
    else if c = '#' then dropBlanks true rest
    else c :: rest

/-- Dropping blanks makes no text longer. -/
theorem length_dropBlanks_le (inComment : Bool) (s : List Char) :
    (dropBlanks inComment s).length ≤ s.length := by
  induction s generalizing inComment with
  | nil => simp [dropBlanks]
  | cons c rest ih =>
    unfold dropBlanks
    split
    · exact Nat.le_succ_of_le (ih _)
    · split
      · exact Nat.le_succ_of_le (ih _)
      · split
        · exact Nat.le_succ_of_le (ih _)
        · exact Nat.le_refl _

/-- Drop what the options allow between two parts. -/
def Options.skip (o : Options) (s : List Char) : List Char :=
  if o.blanks then dropBlanks false s else s

/-- Skipping makes no text longer. -/
theorem Options.length_skip_le (o : Options) (s : List Char) : (o.skip s).length ≤ s.length := by
  unfold Options.skip
  split
  · exact length_dropBlanks_le _ _
  · exact Nat.le_refl _

/-- The character that follows behind blanks and the mark of a comment. -/
def Options.peek (o : Options) (s : List Char) : Option Char :=
  if o.blanks then
    match s.dropWhile isBlank with
    | [] => s.head?
    | '#' :: rest => (rest.dropWhile isBlank).head?.or s.head?
    | c :: _ => some c
  else s.head?

/-! ## Characters and escapes -/

/-- A character, in either case if case is ignored. -/
def charExpr (o : Options) (c : Char) : Expr :=
  if o.ignoreCase && isLetter c then .set (CharSet.foldCase (CharSet.single c)) else .char c

/-- The expression for any character. -/
def anyExpr (o : Options) : Expr :=
  if o.dotMatchesNewline then .set [(0, CharSet.top)]
  else if o.anyLineEnd then .set (CharSet.negate (CharSet.single '\n' ++ CharSet.single '\r'))
  else .set (CharSet.negate (CharSet.single '\n'))

/-- The assertion for the start of a text or a line. -/
def startExpr (o : Options) : Expr :=
  .assertion (if !o.multiLine then .textStart else if o.anyLineEnd then .anyLineStart else .lineStart)

/-- The assertion for the end of a text or a line. -/
def endExpr (o : Options) : Expr :=
  .assertion (if !o.multiLine then .textEnd else if o.anyLineEnd then .anyLineEnd else .lineEnd)

/-- A reader of some part fails or gives what it read, often with the text behind it. -/
abbrev ReadM := Except PatternError

/-- The character with a number. -/
def codePoint (o : Options) (digits : List Char) : ReadM Expr :=
  let n := hexNumber digits
  if n.isValidChar then .ok (charExpr o (Char.ofNat n)) else .error .badEscape

/-- Reads a fixed number of hexadecimal digits. -/
def fixedDigits (o : Options) : Nat → List Char → ReadM (List Char × List Char)
  | 0, s => .ok ([], s)
  | _ + 1, [] => .error .badEscape
  | n + 1, c :: rest => do
    if !isHex c then throw .badEscape
    let (digits, s) ← fixedDigits o n (o.skip rest)
    return (c :: digits, s)

/-- Reads hexadecimal digits up to a closing brace. -/
def bracedDigits (o : Options) : List Char → ReadM (List Char × List Char)
  | [] => .error .badEscape
  | c :: rest =>
    if c = '\x7d' then .ok ([], o.skip rest)
    else if isHex c then do
      let (digits, s) ← bracedDigits o (o.skip rest)
      return (c :: digits, s)
    else .error .badEscape
termination_by s => s.length
decreasing_by exact Nat.lt_succ_of_le (o.length_skip_le rest)

/-- Reads the number of a character: digits of a fixed count, or any count between braces. -/
def numberedChar (o : Options) (count : Nat) (s : List Char) : ReadM (Expr × List Char) := do
  match o.skip s with
  | '\x7b' :: rest =>
    let (digits, s) ← bracedDigits o (o.skip rest)
    if digits.isEmpty then throw .badEscape
    return (← codePoint o digits, s)
  | s =>
    let (digits, s) ← fixedDigits o count s
    return (← codePoint o digits, s)

/-- Whether a character can stand in the name of a word boundary. -/
def isBoundaryChar (c : Char) : Bool := isLetter c || c == '-'

/-- Reads the name of a word boundary up to its brace. -/
def boundaryName (o : Options) : List Char → ReadM (List Char × List Char)
  | [] => .error .badEscape
  | c :: rest =>
    if c = '\x7d' then .ok ([], rest)
    else if isBoundaryChar c then do
      let (name, s) ← boundaryName o (o.skip rest)
      return (c :: name, s)
    else .error .badEscape
termination_by s => s.length
decreasing_by exact Nat.lt_succ_of_le (o.length_skip_le rest)

/-- The word boundary with a name. -/
def namedBoundary? (name : String) : Option Assertion :=
  match name with
  | "start" => some .wordStart
  | "end" => some .wordEnd
  | "start-half" => some .wordStartHalf
  | "end-half" => some .wordEndHalf
  | _ => none

/-- Reads a word boundary. A brace with a name behind it makes it a special one; a brace with
anything else is left for a repetition. -/
def wordBoundary (o : Options) (s : List Char) : ReadM (Expr × List Char) :=
  match s with
  | '\x7b' :: rest =>
    match o.skip rest with
    | [] => .error .badEscape
    | c :: rest' =>
      if isBoundaryChar c then do
        let (name, s) ← boundaryName o (c :: rest')
        match namedBoundary? (String.ofList name) with
        | some a => return (.assertion a, s)
        | none => throw .badEscape
      else .ok (.assertion .wordBoundary, s)
  | _ => .ok (.assertion .wordBoundary, s)

/-- The character that a letter stands for behind a backslash. -/
def controlLetter? (c : Char) : Option Char :=
  match c with
  | 'a' => some '\x07'
  | 'f' => some '\x0c'
  | 't' => some '\t'
  | 'n' => some '\n'
  | 'r' => some '\r'
  | 'v' => some '\x0b'
  | _ => none

/-- The set that a letter stands for behind a backslash. -/
def setLetter? (c : Char) : Option CharSet :=
  match c with
  | 'd' => some CharSet.digits
  | 'D' => some CharSet.digits.negate
  | 's' => some CharSet.space
  | 'S' => some CharSet.space.negate
  | 'w' => some CharSet.word
  | 'W' => some CharSet.word.negate
  | _ => none

/-- The assertion that a letter stands for behind a backslash. -/
def assertionLetter? (c : Char) : Option Assertion :=
  match c with
  | 'A' => some .textStart
  | 'z' => some .textEnd
  | 'B' => some .noWordBoundary
  | '<' => some .wordStart
  | '>' => some .wordEnd
  | _ => none

/-- Whether a character stands for itself behind a backslash: ASCII characters that are neither
letters nor digits nor angle brackets. -/
def isEscapable (c : Char) : Bool :=
  decide (c.toNat < 0x80) && !c.isAlphanum && c != '<' && c != '>'

/-- Reads what stands behind a backslash. -/
def escape (o : Options) : List Char → ReadM (Expr × List Char)
  | [] => .error .badEscape
  | c :: rest =>
    if c = 'x' then numberedChar o 2 rest
    else if c = 'u' then numberedChar o 4 rest
    else if c = 'U' then numberedChar o 8 rest
    else if c = 'b' then wordBoundary o rest
    else if isEscapable c then .ok (charExpr o c, rest)
    else if let some set := setLetter? c then .ok (.set set, rest)
    else if let some c := controlLetter? c then .ok (charExpr o c, rest)
    else if let some a := assertionLetter? c then .ok (.assertion a, rest)
    else .error .badEscape

/-! ## Sets of characters -/

/-- Reads the name of a set that stands between brackets and colons. -/
def namedSet? (s : List Char) : Option (CharSet × List Char) := do
  let s ← afterStart? [':'] s
  let (negated, s) := match s with
    | '^' :: rest => (true, rest)
    | _ => (false, s)
  let set ← CharSet.named? (String.ofList (s.takeWhile (· != ':')))
  let s ← afterStart? [':', ']'] (s.dropWhile (· != ':'))
  some (if negated then set.negate else set, s)

/-- Reads one character or escape inside a set. -/
def setItem (o : Options) : List Char → ReadM (Expr × List Char)
  | [] => .error .badClass
  | '\\' :: rest => escape o rest
  | c :: rest => .ok (.char c, rest)

/-- The characters of an item. -/
def itemSet : Expr → ReadM CharSet
  | .char c => .ok (.single c)
  | .set s => .ok s
  | _ => .error .badClass

/-- The one character of an item that ends a range. -/
def itemChar : Expr → ReadM Char
  | .char c => .ok c
  | _ => .error .badClass

/-- Reads an item or a range of characters. -/
def setRange (o : Options) (s : List Char) : ReadM (CharSet × List Char) := do
  let (first, s) ← setItem o s
  match o.skip s with
  | [] => throw .badClass
  | '-' :: rest =>
    let next := o.peek rest
    if next == some ']' || next == some '-' then return (← itemSet first, '-' :: rest)
    let (last, s) ← setItem o (o.skip rest)
    let first ← itemChar first
    let last ← itemChar last
    if last < first then throw .badClass
    return (.range first last, s)
  | s => return (← itemSet first, s)

/-- Whether the text starts with an operation on sets. -/
def startsOperation : List Char → Bool
  | c :: d :: _ => c == d && (c == '&' || c == '-' || c == '~')
  | _ => false

/-- Reads the items of a set up to its bracket. -/
def setItems (o : Options) (set : CharSet) (s : List Char) : ReadM (CharSet × List Char) :=
  let s' := o.skip s
  let item : ReadM (CharSet × List Char) :=
    match s' with
    | '[' :: rest => match namedSet? rest with
      | some found => .ok found
      | none => .error .badClass
    | _ => if startsOperation s' then .error .badClass else setRange o s'
  match s' with
  | [] => .error .badClass
  | ']' :: rest => .ok (set, rest)
  | _ =>
    match item with
    | .error e => .error e
    | .ok (more, rest) =>
      -- every item takes something away, so the other branch is never taken
      if rest.length < s.length then setItems o (set ++ more) rest else .error .badClass
termination_by s.length

/-- Reads dashes at the start of a set. -/
def leadingDashes (o : Options) : List Char → List Char
  | [] => []
  | c :: rest => if c = '-' then leadingDashes o (o.skip rest) else c :: rest
termination_by s => s.length
decreasing_by exact Nat.lt_succ_of_le (o.length_skip_le rest)

/-- Reads a set behind its opening bracket. Dashes at its start stand for themselves, and so does a
closing bracket that comes first. -/
def setExpr (o : Options) (s : List Char) : ReadM (Expr × List Char) := do
  let s := o.skip s
  let (negated, s) := match s with
    | '^' :: rest => (true, o.skip rest)
    | _ => (false, s)
  let undashed := leadingDashes o s
  let (start, s) : CharSet × List Char :=
    if s.head? == some '-' then (.single '-', undashed)
    else match s with
      | ']' :: rest => (.single ']', o.skip rest)
      | _ => ([], s)
  let (set, s) ← setItems o start s
  let set := if o.ignoreCase then set.foldCase else set
  return (.set (if negated then set.negate else set), s)

/-! ## Repetitions -/

/-- Reads one of the bounds of a repetition. -/
def bound (o : Options) (s : List Char) : ReadM (Nat × List Char) := do
  let (digits, s) := digitsOf (s.dropWhile isBlank)
  if digits.isEmpty || decide (UInt32.size ≤ decimalValue digits) then throw .badRepetition
  return (decimalValue digits, s.dropWhile isBlank)
where
  /-- Digits with what may be skipped between them. -/
  digitsOf : List Char → List Char × List Char
    | [] => ([], [])
    | c :: rest =>
      if c.isDigit then
        let (digits, s) := digitsOf (o.skip rest)
        (c :: digits, s)
      else ([], c :: rest)
  termination_by s => s.length
  decreasing_by exact Nat.lt_succ_of_le (o.length_skip_le rest)

/-- Reads the bounds of a repetition behind its brace. -/
def bounds (o : Options) (s : List Char) : ReadM ((Nat × Option Nat) × List Char) := do
  let (min, s) ← bound o (o.skip s)
  let (max, s) ← match s with
    | ',' :: rest => match o.skip rest with
      | '\x7d' :: rest => pure (none, '\x7d' :: rest)
      | s => do
        let (max, s) ← bound o s
        pure (some max, s)
    | _ => pure (some min, s)
  match s with
  | '\x7d' :: rest =>
    if max.any (· < min) then throw .badRepetition
    return ((min, max), o.skip rest)
  | _ => throw .badRepetition

/-- Drop the mark of a repetition that prefers to be short. -/
def dropLazy (s : List Char) : List Char :=
  match s with
  | '?' :: rest => rest
  | _ => s

/-! ## Groups -/

/-- Whether a character can stand in the name of a group. -/
def isNameChar (first : Bool) (c : Char) : Bool :=
  let letter := isLetter c || inRanges letterRanges c.toNat
  let number := c.isDigit || inRanges numberRanges c.toNat
  c == '_' || letter || (!first && (number || c == '.' || c == '[' || c == ']'))

/-- Whether a name can be given to a group. -/
def isGroupName : List Char → Bool
  | [] => false
  | c :: rest => isNameChar true c && rest.all (isNameChar false)

/-- Whether the text asks for an assertion about the text around. -/
def startsLookaround (s : List Char) : Bool :=
  [['?', '='], ['?', '!'], ['?', '<', '='], ['?', '<', '!']].any (·.isPrefixOf s)

/-- Set or clear an option. The last one has no effect. -/
def Options.set? (o : Options) (c : Char) (on : Bool) : Option Options :=
  match c with
  | 'i' => some { o with ignoreCase := on }
  | 'm' => some { o with multiLine := on }
  | 's' => some { o with dotMatchesNewline := on }
  | 'R' => some { o with anyLineEnd := on }
  | 'x' => some { o with blanks := on }
  | 'U' => some o
  | 'u' => some o
  | _ => none

/-- Reads options up to a colon or a parenthesis, given those that were read before. -/
def options (o : Options) (on : Bool) (seen : List Char) : List Char → ReadM (Options × List Char)
  | [] => .error .badOption
  | c :: rest =>
    if c = ':' ∨ c = ')' then
      if seen.head? == some '-' then .error .badOption else .ok (o, c :: rest)
    else if seen.contains c then .error .badOption
    else if c = '-' then options o false (c :: seen) rest
    else match o.set? c on with
      | some o => options o on (c :: seen) rest
      | none => .error .badOption

/-- An open group: the options outside it, and what was read of it, the latest first. -/
structure Group where
  outside : Options
  captures : Bool
  alternates : List Expr
  concat : List Expr
deriving Inhabited

/-- The expression of a group. -/
def Group.expr (g : Group) : Expr :=
  let inner := Expr.ofAlternates (Expr.ofConcat g.concat.reverse :: g.alternates).reverse
  if g.captures then .capture inner else inner

/-- The state of the reader: the options, the innermost group, the groups around it, and the names
of groups. -/
structure Reader where
  options : Options
  group : Group
  outer : List Group
  names : List (List Char)
deriving Inhabited

/-- How deep groups and expressions may nest. -/
def maxDepth : Nat := 50

namespace Reader

/-- Add an expression to the innermost group. -/
def add (r : Reader) (e : Expr) : Reader :=
  { r with group := { r.group with concat := e :: r.group.concat } }

/-- Open a group. -/
def openGroup (r : Reader) (captures : Bool) (inside : Options) :
    ReadM Reader :=
  if maxDepth ≤ r.outer.length then .error .tooDeep
  else .ok { r with
    options := inside
    group := ⟨r.options, captures, [], []⟩
    outer := r.group :: r.outer }

/-- Close the innermost group. -/
def closeGroup (r : Reader) : ReadM Reader :=
  match r.outer with
  | [] => .error .unopenedGroup
  | group :: outer =>
    .ok { r with
      options := r.group.outside
      group := { group with concat := r.group.expr :: group.concat }
      outer := outer }

/-- Open a group with a name, whose text starts with the name. -/
def openNamed (r : Reader) (s : List Char) : ReadM (Reader × List Char) := do
  match cutFirst? '>' s with
  | none => throw .badGroupName
  | some (name, s) =>
    if !isGroupName name || r.names.contains name then throw .badGroupName
    let r ← openGroup { r with names := name :: r.names } true r.options
    return (r, s)

/-- Reads the start of a group behind its parenthesis. -/
def readOpening (r : Reader) (s : List Char) : ReadM (Reader × List Char) := do
  let s := r.options.skip s
  if startsLookaround s then throw .lookaround
  match s with
  | '?' :: 'P' :: '<' :: rest => r.openNamed rest
  | '?' :: '<' :: rest => r.openNamed rest
  | '?' :: rest =>
    let (inside, s) ← Regex.options r.options true [] rest
    match s with
    | ')' :: after =>
      if rest.head? == some ')' then throw .badOption
      return ({ r with options := inside }, after)
    | _ => return (← r.openGroup false inside, s.drop 1)
  | _ => return (← r.openGroup true r.options, s)

/-- Repeat the latest expression. -/
def repeatLast (r : Reader) (min : Nat) (max : Option Nat) : ReadM Reader :=
  match r.group.concat with
  | [] => .error .nothingToRepeat
  | e :: before =>
    .ok { r with group := { r.group with concat := .ofRepeated e min max :: before } }

/-- Reads one part of an expression. -/
def step (r : Reader) (c : Char) (rest : List Char) : ReadM (Reader × List Char) := do
  let o := r.options
  match c with
  | '(' => r.readOpening rest
  | ')' => return (← r.closeGroup, rest)
  | '|' =>
    let g := r.group
    let branch := Expr.ofConcat g.concat.reverse
    return ({ r with group := { g with alternates := branch :: g.alternates, concat := [] } }, rest)
  | '[' =>
    let (e, s) ← setExpr o rest
    return (r.add e, s)
  | '?' => return (← r.repeatLast 0 (some 1), dropLazy rest)
  | '*' => return (← r.repeatLast 0 none, dropLazy rest)
  | '+' => return (← r.repeatLast 1 none, dropLazy rest)
  | '\x7b' =>
    if r.group.concat.isEmpty then throw .nothingToRepeat
    let ((min, max), s) ← bounds o rest
    return (← r.repeatLast min max, dropLazy s)
  | '\\' =>
    let (e, s) ← escape o rest
    return (r.add e, s)
  | '.' => return (r.add (anyExpr o), rest)
  | '^' => return (r.add (startExpr o), rest)
  | '$' => return (r.add (endExpr o), rest)
  | _ => return (r.add (charExpr o c), rest)

/-- Reads all parts of an expression. -/
def run (r : Reader) (s : List Char) : ReadM Reader :=
  match r.options.skip s with
  | [] => .ok r
  | c :: rest =>
    match r.step c rest with
    | .error e => .error e
    | .ok (r, s') =>
      -- every part takes something away, so the other branch is never taken
      if s'.length < s.length then run r s' else .error .tooLarge
termination_by s.length

/-- The reader before the first part. -/
def initial : Reader := ⟨{}, ⟨{}, false, [], []⟩, [], []⟩

end Reader

/-- How large the automaton of an expression may be. -/
def maxSize : Nat := 10485760

/-- Reads a regular expression. -/
def parse (text : String) : ReadM Expr := do
  let r ← Reader.initial.run text.toList
  if !r.outer.isEmpty then throw .unclosedGroup
  let e := r.group.expr
  if maxDepth < e.depth then throw .tooDeep
  if maxSize < (Expr.capture e).size + Expr.stateSize then throw .tooLarge
  return e

end SeedCleanup.Regex

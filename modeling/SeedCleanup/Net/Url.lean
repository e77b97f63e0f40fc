import SeedCleanup.Net.Host

/-!
# Addresses on the net

An address is taken apart and brought into one form: a known scheme knows its usual port and always
has a host and a path, dots in a path are followed, and characters that cannot stand for themselves
are escaped.
-/

namespace SeedCleanup

open SeedCleanup.Text

/-- An address on the net. -/
structure Url where
  scheme : String
  username : String := ""
  password : String := ""
  /-- The host; it is empty if the address only has the slashes in front of one. -/
  host : Option String
  port : Option Nat := none
  path : String
  query : Option String := none
  fragment : Option String := none
deriving DecidableEq, Inhabited

namespace Url

/-- The usual ports of the known schemes. A file has none. -/
def knownSchemes : List (String × Option Nat) :=
  [("http", some 80), ("https", some 443), ("ws", some 80), ("wss", some 443), ("ftp", some 21),
   ("file", none)]

/-! ## Characters that stand for themselves -/

/-- Whether a character shows and is ASCII. -/
def isVisible (c : Char) : Bool := decide (0x20 < c.toNat) && decide (c.toNat < 0x7F)

/-- Whether a character stands for itself in a fragment. -/
def isFragmentChar (c : Char) : Bool := isVisible c && !"\"<>`".toList.contains c

/-- Whether a character stands for itself in a path. -/
def isPathChar (c : Char) : Bool := isFragmentChar c && !"#?\x7b\x7d".toList.contains c

/-- Whether a character stands for itself in the name of a user. -/
def isUserChar (c : Char) : Bool := isPathChar c && !"/:;=@[\\]^|".toList.contains c

/-- Whether a character stands for itself in a query. -/
def isQueryChar (known : Bool) (c : Char) : Bool :=
  isVisible c && !"\"#<>".toList.contains c && !(known && c == '\'')

/-! ## Paths -/

/-- Whether a part of a path stays where it is. -/
def isDot (part : List Char) : Bool :=
  let part := part.map Char.toLower
  part == ['.'] || part == "%2e".toList

/-- Whether a part of a path leads up. -/
def isTwoDots (part : List Char) : Bool :=
  ["..", ".%2e", "%2e.", "%2e%2e"].contains (String.ofList (part.map Char.toLower))

/-- Follow the parts of a path; the parts so far are held in reverse. -/
def follow (read : List (List Char)) : List (List Char) → List (List Char)
  | [] => read.reverse
  | part :: rest =>
    if isTwoDots part then follow (if rest.isEmpty then [] :: read.tail else read.tail) rest
    else if isDot part then follow (if rest.isEmpty then [] :: read else read) rest
    else follow (Percent.encode isPathChar part :: read) rest

/-- A path below the root. -/
def rooted (known : Bool) (s : List Char) : List Char :=
  let isSlash (c : Char) : Bool := c == '/' || (known && c == '\\')
  '/' :: List.intercalate ['/'] (follow [] (splitBy isSlash s))

/-! ## Taking an address apart -/

/-- The parts behind the scheme and the host: path, query and fragment. -/
def tailParts (s : List Char) : List Char × Option (List Char) × Option (List Char) :=
  let (s, fragment) := match cutFirst? '#' s with
    | some (s, fragment) => (s, some fragment)
    | none => (s, none)
  match cutFirst? '?' s with
  | some (path, query) => (path, some query, fragment)
  | none => (s, none, fragment)

/-- Reads a port; the usual one of the scheme need not be said. -/
def port? (usual : Option Nat) (s : List Char) : Option (Option Nat) :=
  if s.isEmpty then some none
  else
    match numeral? s with
    | some n =>
      if 65535 < n then none else if usual = some n then some none else some (some n)
    | none => none

/-- The text before and after the colon in front of a port. A colon between brackets is none. -/
def cutPort (s : List Char) : List Char × List Char :=
  let (inBrackets, rest) := match s with
    | '[' :: _ => let inside := s.takeWhile (· != ']'); (inside, s.drop inside.length)
    | _ => ([], s)
  match cutFirst? ':' rest with
  | some (before, port) => (inBrackets ++ before, port)
  | none => (s, [])

/-- The text before and after the last at sign. -/
def cutUser? (s : List Char) : Option (List Char × List Char) :=
  (cutFirst? '@' s.reverse).map fun (host, user) => (user.reverse, host.reverse)

/-- An address in parts, given what is behind its host. -/
def withTail (u : Url) (known : Bool) (s : List Char) : Url :=
  let (path, query, fragment) := tailParts s
  let path := match path with
    | [] => if known then ['/'] else []
    | c :: rest => if c == '/' || c == '\\' then rooted known rest else rooted known path
  { u with
    path := String.ofList path
    query := query.map fun q => String.ofList (Percent.encode (isQueryChar known) q)
    fragment := fragment.map fun f => String.ofList (Percent.encode isFragmentChar f) }

/-- Reads what is behind the slashes of an address with a host. -/
def afterSlashes? (scheme : String) (known : Bool) (usual : Option Nat) (s : List Char) :
    Option Url := do
  let isEnd (c : Char) : Bool := c == '/' || c == '?' || c == '#' || (known && c == '\\')
  let authority := s.takeWhile fun c => !isEnd c
  let (user, hostPort) := (cutUser? authority).getD ([], authority)
  let (username, password) := (cutFirst? ':' user).getD (user, [])
  let (host, port) := cutPort hostPort
  let host ← if known then Host.name? host else Host.unknown? host
  if host.isEmpty && !(username.isEmpty && password.isEmpty) then none
  let port ← port? usual port
  let u : Url :=
    { scheme, port, path := ""
      host := some (String.ofList host)
      username := String.ofList (Percent.encode isUserChar username)
      password := String.ofList (Percent.encode isUserChar password) }
  some (u.withTail known (s.drop authority.length))

/-- Reads what is behind the scheme of a file. -/
def file? (s : List Char) : Option Url := do
  let isSlash (c : Char) : Bool := c == '/' || c == '\\'
  match s with
  | a :: b :: rest =>
    if isSlash a && isSlash b then
      let host := rest.takeWhile fun c => !(isSlash c || c == '?' || c == '#')
      let name ← if host.isEmpty then some [] else Host.name? host
      let u : Url :=
        { scheme := "file", path := ""
          host := some (if name == "localhost".toList then "" else String.ofList name) }
      some (u.withTail true (rest.drop host.length))
    else some (Url.withTail { scheme := "file", host := some "", path := "" } true s)
  | _ => some (Url.withTail { scheme := "file", host := some "", path := "" } true s)

/-- Reads what is behind the scheme of an address without a host. -/
def withoutHost (scheme : String) (s : List Char) : Url :=
  match s with
  | '/' :: _ => Url.withTail { scheme, host := none, path := "" } false s
  | _ =>
    let (path, query, fragment) := tailParts s
    { scheme, host := none
      path := String.ofList (Percent.encode (fun c => isVisible c || c == ' ') path)
      query := query.map fun q => String.ofList (Percent.encode (isQueryChar false) q)
      fragment := fragment.map fun f => String.ofList (Percent.encode isFragmentChar f) }

/-- Whether a character can be in the name of a scheme. -/
def isSchemeChar (c : Char) : Bool := c.isAlphanum || c == '+' || c == '-' || c == '.'

/-- Drop what does not count: controls and blanks at both ends, and tabs and ends of lines. -/
def cleaned (s : List Char) : List Char :=
  let isEdge (c : Char) : Bool := decide (c.toNat ≤ 0x20)
  (dropEndWhile isEdge (s.dropWhile isEdge)).filter fun c =>
    !(c == '\t' || c == '\n' || c == '\r')

/-- Reads an address. -/
def parse (text : String) : Option Url := do
  let s := cleaned text.toList
  let (scheme, rest) ← cutFirst? ':' s
  if !(scheme.head?.any isLetter) || !scheme.all isSchemeChar then none
  let scheme := String.ofList (scheme.map Char.toLower)
  match knownSchemes.lookup scheme, rest with
  | some none, _ => file? rest
  | some usual, _ => afterSlashes? scheme true usual (rest.dropWhile fun c => c == '/' || c == '\\')
  | none, '/' :: '/' :: rest => afterSlashes? scheme false none rest
  | none, _ => some (withoutHost scheme rest)

/-! ## Writing -/

/-- Whether an address names a host. -/
def hasHost (u : Url) : Bool := u.host.any fun host => !host.isEmpty

/-- The name and the password of a user in front of a host. -/
def userText (u : Url) : String :=
  if u.username.isEmpty && u.password.isEmpty then ""
  else u.username ++ (if u.password.isEmpty then "" else ":" ++ u.password) ++ "@"

/-- The host and the port. -/
def authority (u : Url) : String :=
  u.host.getD "" ++ (match u.port with
    | some n => ":" ++ toString n
    | none => "")

/-- The path and the query. -/
def target (u : Url) : String :=
  u.path ++ (match u.query with
    | some q => "?" ++ q
    | none => "")

/-- The text of an address. -/
def text (u : Url) : String :=
  u.scheme ++ ":" ++
    (if u.host.isSome then "//" ++ u.userText ++ u.authority else "") ++
    u.target ++ (match u.fragment with
      | some f => "#" ++ f
      | none => "")

/-- The address without the name of a user. -/
def withoutUser (u : Url) : Url := { u with username := "", password := "" }

/-- The address with more names and values in its query. -/
def addQuery (u : Url) (pairs : List (String × String)) : Url :=
  if pairs.isEmpty then u
  else
    match u.query with
    | none => { u with query := some (Percent.form pairs) }
    | some "" => { u with query := some (Percent.form pairs) }
    | some q => { u with query := some (q ++ "&" ++ Percent.form pairs) }

end Url

end SeedCleanup

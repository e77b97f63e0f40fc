import SeedCleanup.Net.Ip
import SeedCleanup.Net.Percent
import SeedCleanup.Net.Punycode
import SeedCleanup.Text.Lowercase

/-!
# Hosts

The host of an address on the net: a name, or an internet address in one of its many spellings,
brought into one form.
-/

namespace SeedCleanup.Host

open SeedCleanup.Text

/-- Whether a character can be in no host. -/
def isForbidden (c : Char) : Bool :=
  c == '\x00' || c == '\t' || c == '\n' || c == '\r' || c == ' ' || c == '#' || c == '/' ||
    c == ':' || c == '<' || c == '>' || c == '?' || c == '@' || c == '[' || c == '\\' ||
    c == ']' || c == '^' || c == '|'

/-- Whether a character can be in no name. -/
def isForbiddenInName (c : Char) : Bool :=
  isForbidden c || decide (c.toNat < 0x20) || c == '%' || c == '\x7F'

/-! ## Four octets -/

/-- Reads a number of an address: hexadecimal behind `0x`, octal behind a zero. -/
def number? (s : List Char) : Option Nat :=
  let inBase (base : Nat) (digits : List Char) : Option Nat :=
    if digits.all fun c => (hexValue? c).any (· < base) then
      some (numeralValue base (digits.filterMap hexValue?))
    else none
  match s with
  | '0' :: 'x' :: digits => inBase 16 digits
  | '0' :: 'X' :: digits => inBase 16 digits
  | '0' :: digits => inBase 8 digits
  | [] => none
  | _ => inBase 10 s

/-- The parts of a name; a point at its end adds none. -/
def parts (name : List Char) : List (List Char) :=
  let all := splitOnChar '.' name
  if all.length ≠ 1 ∧ all.getLast? = some [] then all.dropLast else all

/-- Whether the last part of a name is a number, so that it must be an address. -/
def endsInNumber (name : List Char) : Bool :=
  match (parts name).getLast? with
  | none => false
  | some [] => false
  | some part => part.all Char.isDigit || (number? part).isSome

/-- Reads an address of at most four numbers: the last one fills all octets that are left. -/
def octets? (name : List Char) : Option (List Char) := do
  let numbers ← (parts name).mapM number?
  let last ← numbers.getLast?
  let first := numbers.dropLast
  if 3 < first.length ∨ first.any (255 < ·) ∨ Nat.pow 256 (4 - first.length) ≤ last then none
  let n := last + ((first.zipIdx.map fun p => p.1 * Nat.pow 256 (3 - p.2)).foldl (· + ·) 0)
  some (IpAddress.v4 (UInt8.ofNat (n / 16777216)) (UInt8.ofNat (n / 65536))
    (UInt8.ofNat (n / 256)) (UInt8.ofNat n)).text.toList

/-! ## Names -/

/-- A part of a name in ASCII letters. -/
def asciiLabel (label : List Char) : List Char :=
  if label.all (·.toNat < 128) then label else "xn--".toList ++ Punycode.encode label

/-- Whether a character separates the parts of a name. -/
def isDot (c : Char) : Bool := c == '.' || c == '\u3002' || c == '\uFF0E' || c == '\uFF61'

/-- A name in small ASCII letters. -/
def asciiName (name : List Char) : List Char :=
  let labels := splitBy isDot (lowercase (String.ofList name)).toList
  List.intercalate ['.'] (labels.map asciiLabel)

/-! ## Hosts -/

/-- Reads an address of eight groups between brackets. -/
def groups? (s : List Char) : Option (List Char) :=
  match IpAddress.parseV6 s with
  | some (.v6 groups) => some ('[' :: (IpAddress.compressed groups).toList ++ [']'])
  | _ => none

/-- Reads the host of an address whose scheme is known. -/
def name? (s : List Char) : Option (List Char) :=
  match s with
  | '[' :: rest => if s.getLast? = some ']' then groups? rest.dropLast else none
  | _ =>
    let name := asciiName (decodeUtf8 (Percent.decode s))
    if name.isEmpty || name.any isForbiddenInName then none
    else if endsInNumber name then octets? name
    else some name

/-- Reads the host of an address of any other scheme. -/
def unknown? (s : List Char) : Option (List Char) :=
  match s with
  | '[' :: rest => if s.getLast? = some ']' then groups? rest.dropLast else none
  | _ =>
    if s.any isForbidden then none
    else some (Percent.encode (fun c => decide (0x20 ≤ c.toNat) && decide (c.toNat < 0x7F)) s)

end SeedCleanup.Host

import SeedCleanup.Json.Basic

/-!
# Decoding documents

A decoder takes a document to a value of the domain, or to nothing. Records are read from objects by
the names of their fields or from arrays by position. Formats differ in a few liberties, which a
`Dialect` names.
-/

namespace SeedCleanup.Json

/-! ## Single values -/

/-- Reads an integer that satisfies a bound. -/
def intWithin? (low high : Int) : Json → Option Int
  | .num n => n.toInt?.filter fun i => decide (low ≤ i) && decide (i ≤ high)
  | _ => none

/-- Reads a signed 64-bit integer. -/
def int64? (j : Json) : Option Int64 :=
  (intWithin? Int64.minValue.toInt Int64.maxValue.toInt j).map Int64.ofInt

/-- Reads a signed 32-bit integer. -/
def int32? (j : Json) : Option Int32 :=
  (intWithin? Int32.minValue.toInt Int32.maxValue.toInt j).map Int32.ofInt

/-- Reads an unsigned 64-bit integer. -/
def uint64? (j : Json) : Option UInt64 :=
  (intWithin? 0 (UInt64.size - 1) j).map fun n => UInt64.ofNat n.toNat

/-- Reads an unsigned 32-bit integer. -/
def uint32? (j : Json) : Option UInt32 :=
  (intWithin? 0 (UInt32.size - 1) j).map fun n => UInt32.ofNat n.toNat

/-- Reads an unsigned 16-bit integer. -/
def uint16? (j : Json) : Option UInt16 :=
  (intWithin? 0 (UInt16.size - 1) j).map fun n => UInt16.ofNat n.toNat

/-- Reads a double; an integer is rounded to the nearest. -/
def binary64? : Json → Option Binary64
  | .num n => some n.toBinary64
  | _ => none

/-- Reads a text. -/
def string? : Json → Option String
  | .str s => some s
  | _ => none

/-- Reads a truth value. -/
def bool? : Json → Option Bool
  | .bool b => some b
  | _ => none

/-- Reads a list. -/
def list? {α : Type} (decode : Json → Option α) : Json → Option (List α)
  | .arr items => items.mapM decode
  | _ => none

/-- Reads a value that may be null. -/
def option? {α : Type} (decode : Json → Option α) : Json → Option (Option α)
  | .null => some none
  | j => (decode j).map some

/-! ## Records and variants -/

/-- The liberties of a format. -/
structure Dialect where
  /-- An array that stands for a record may have items beyond its fields. -/
  longRecords : Bool
  /-- What may stand behind the name of a variant in an object of one member. -/
  isUnit : Json → Bool
  /-- A number may stand for a variant by its place. -/
  numberedVariants : Bool

/-- The format of plain documents. -/
def plain : Dialect where
  longRecords := false
  isUnit j := match j with
    | .null => true
    | _ => false
  numberedVariants := false

/-- The fields of a record that a document gives, by name. -/
abbrev Record := List (String × Json)

namespace Dialect

/-- Reads the fields of a record. Members with other names are passed over, and no field is given
twice. -/
def record? (d : Dialect) (names : List String) : Json → Option Record
  | .obj members =>
    let known := members.filter fun m => names.contains m.1
    if (known.map (·.1)).Nodup then some known else none
  | .arr items =>
    if d.longRecords || decide (items.length ≤ names.length) then some (names.zip items) else none
  | _ => none

/-- Reads the name of a variant. -/
def variant? (d : Dialect) (names : List String) : Json → Option String
  | .str s => some s
  | .obj [(s, value)] => if d.isUnit value then some s else none
  | .num n =>
    if d.numberedVariants then n.toInt?.bind fun i => if i < 0 then none else names[i.toNat]?
    else none
  | _ => none

end Dialect

namespace Record

/-- Reads a field that must be given. -/
def required {α : Type} (r : Record) (name : String) (decode : Json → Option α) : Option α :=
  (r.lookup name).bind decode

/-- Reads a field that has a value when it is not given. -/
def withDefault {α : Type} (r : Record) (name : String) (value : α) (decode : Json → Option α) :
    Option α :=
  match r.lookup name with
  | none => some value
  | some j => decode j

end Record

end SeedCleanup.Json

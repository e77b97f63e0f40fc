import SeedCleanup.Number.Binary64

/-!
# Documents

A `Json` is a document as it was read: the members of an object keep their order and may repeat a
name. A well-formed value that no reader can use, such as a number beyond all doubles, is kept as
`unreadable`, because a reader that skips it must not notice.
-/

namespace SeedCleanup

/-- A number of a document. Whole numbers are exact while they fit sixty-four bits. -/
inductive Number where
  | whole (n : UInt64)
  | below (n : Int64)
  | real (x : Binary64)
deriving DecidableEq, Inhabited

/-- A document. -/
inductive Json where
  | null
  | bool (b : Bool)
  | num (n : Number)
  | str (s : String)
  | arr (items : List Json)
  | obj (members : List (String × Json))
  | unreadable
deriving Inhabited

namespace Number

/-- An integer as a number; one that fits no integer type becomes a real. -/
def ofInt (n : Int) : Number :=
  if 0 ≤ n then
    if n < UInt64.size then .whole (UInt64.ofNat n.toNat) else .real (Binary64.ofInt n)
  else if Int64.minValue.toInt ≤ n then .below (Int64.ofInt n) else .real (Binary64.ofInt n)

/-- The integer that a number was written as. -/
def toInt? : Number → Option Int
  | whole n => some n.toNat
  | below n => some n.toInt
  | real _ => none

/-- The double nearest to a number. -/
def toBinary64 : Number → Binary64
  | whole n => Binary64.ofNat n.toNat
  | below n => Binary64.ofInt n.toInt
  | real x => x

end Number

namespace Json

/-- An integer as a document. -/
def ofInt (n : Int) : Json := .num (.ofInt n)

/-- A double as a document; one that is no real number is written as null. -/
def ofBinary64 (x : Binary64) : Json := if x.isFinite then .num (.real x) else .null

/-- A value or null. -/
def ofOption {α : Type} (encode : α → Json) : Option α → Json
  | none => .null
  | some a => encode a

/-- A list of values. -/
def ofList {α : Type} (encode : α → Json) (l : List α) : Json := .arr (l.map encode)

mutual

/-- How deep arrays and objects nest. -/
def depth : Json → Nat
  | .arr items => depthOfItems items + 1
  | .obj members => depthOfMembers members + 1
  | _ => 0

/-- The greatest depth of an item. -/
def depthOfItems : List Json → Nat
  | [] => 0
  | item :: rest => Max.max (depth item) (depthOfItems rest)

/-- The greatest depth of a member. -/
def depthOfMembers : List (String × Json) → Nat
  | [] => 0
  | (_, value) :: rest => Max.max (depth value) (depthOfMembers rest)

end

mutual

/-- Whether no part of a document is unreadable. -/
def isReadable : Json → Bool
  | .unreadable => false
  | .arr items => areReadableItems items
  | .obj members => areReadableMembers members
  | _ => true

/-- Whether all items are readable. -/
def areReadableItems : List Json → Bool
  | [] => true
  | item :: rest => isReadable item && areReadableItems rest

/-- Whether all members are readable. -/
def areReadableMembers : List (String × Json) → Bool
  | [] => true
  | (_, value) :: rest => isReadable value && areReadableMembers rest

end

/-- How deep a document may nest for a reader that keeps every part of it. -/
def maxDepth : Nat := 127

/-- Whether a reader can keep a document that stands inside `outer` arrays and objects. -/
def isKeepable (outer : Nat) (j : Json) : Bool :=
  j.isReadable && decide (outer + j.depth ≤ maxDepth)

/-- The last member of an object with a name. -/
def member? (name : String) : Json → Option Json
  | .obj members => (members.reverse.find? (·.1 == name)).map (·.2)
  | _ => none

/-- Members with one of them set: it keeps its place, and a new one goes to the end. -/
def setMember (name : String) (j : Json) : List (String × Json) → List (String × Json)
  | [] => [(name, j)]
  | m :: rest => if m.1 = name then (name, j) :: rest else m :: setMember name j rest

mutual

/-- A document with the members of each object in ascending order of their names, and of members
with one name only the last. -/
def sorted : Json → Json
  | .arr items => .arr (sortedItems items)
  | .obj members => .obj (sortedMembers members)
  | j => j

/-- The items, each sorted. -/
def sortedItems : List Json → List Json
  | [] => []
  | item :: rest => sorted item :: sortedItems rest

/-- The members in ascending order of their names, each value sorted. -/
def sortedMembers : List (String × Json) → List (String × Json)
  | [] => []
  | (name, value) :: rest =>
    let later := sortedMembers rest
    if later.any (·.1 == name) then later
    else
      later.takeWhile (fun m => compare m.1 name == .lt) ++
        (name, sorted value) :: later.dropWhile (fun m => compare m.1 name == .lt)

end

end Json

end SeedCleanup

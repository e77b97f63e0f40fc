import SeedCleanup.Json.Token

/-!
# Reading documents

A document is built from its tokens by a machine with a stack: `frames` holds the arrays and objects
that are open, the innermost first, and `want` what may come next.
-/

namespace SeedCleanup.Json

/-- An open array or object with what was read of it, the latest first. The name of a member is
missing if it could not be read. -/
inductive Frame where
  | items (read : List Json)
  | members (read : List (Option String × Json)) (name : Option String)

/-- What may come next. -/
inductive Want where
  | value
  | valueOrEnd
  | name
  | nameOrEnd
  | colon
  | commaOrEnd
  | nothing (result : Json)

/-- A document in the making. -/
structure Partial where
  frames : List Frame
  want : Want

namespace Partial

/-- Put a finished value into the innermost open array or object. -/
def put (frames : List Frame) (value : Json) : Partial :=
  match frames with
  | [] => ⟨[], .nothing value⟩
  | .items read :: outer => ⟨.items (value :: read) :: outer, .commaOrEnd⟩
  | .members read name :: outer => ⟨.members ((name, value) :: read) name :: outer, .commaOrEnd⟩

/-- The object of members in reverse. A member whose name cannot be read spoils it. -/
def object (read : List (Option String × Json)) : Json :=
  match read.reverse.mapM fun m => m.1.map fun name => (name, m.2) with
  | some members => .obj members
  | none => .unreadable

/-- Begin a value, or finish one of a single token. -/
def beginValue (p : Partial) : Token → Option Partial
  | .null => some (put p.frames .null)
  | .bool b => some (put p.frames (.bool b))
  | .num n => some (put p.frames (n.elim .unreadable .num))
  | .str s => some (put p.frames (s.elim .unreadable .str))
  | .openItems => some ⟨.items [] :: p.frames, .valueOrEnd⟩
  | .openMembers => some ⟨.members [] none :: p.frames, .nameOrEnd⟩
  | _ => none

/-- Close the innermost open array or object. -/
def close (p : Partial) : Token → Option Partial
  | .closeItems => match p.frames with
    | .items read :: outer => some (put outer (.arr read.reverse))
    | _ => none
  | .closeMembers => match p.frames with
    | .members read _ :: outer => some (put outer (object read))
    | _ => none
  | _ => none

/-- Begin a member with its name. -/
def beginMember (p : Partial) : Token → Option Partial
  | .str name => match p.frames with
    | .members read _ :: outer => some ⟨.members read name :: outer, .colon⟩
    | _ => none
  | _ => none

/-- Take in one token. -/
def step (p : Partial) (t : Token) : Option Partial :=
  match p.want with
  | .value => p.beginValue t
  | .valueOrEnd => match t with
    | .closeItems => p.close t
    | _ => p.beginValue t
  | .name => p.beginMember t
  | .nameOrEnd => match t with
    | .closeMembers => p.close t
    | _ => p.beginMember t
  | .colon => match t with
    | .colon => some ⟨p.frames, .value⟩
    | _ => none
  | .commaOrEnd => match t with
    | .comma => match p.frames with
      | .items _ :: _ => some ⟨p.frames, .value⟩
      | .members _ _ :: _ => some ⟨p.frames, .name⟩
      | [] => none
    | _ => p.close t
  | .nothing _ => none

/-- The finished document. -/
def result? (p : Partial) : Option Json :=
  match p.want with
  | .nothing result => some result
  | _ => none

end Partial

/-- Reads a text that is one document. -/
def ofChars? (s : List Char) : Option Json := do
  let tokens ← Token.ofChars? s
  let finished ← tokens.foldlM Partial.step ⟨[], .value⟩
  finished.result?

/-- Reads a text that is one document. -/
def parse (text : String) : Option Json := ofChars? text.toList

/-- Reads a text as a document of which every part is kept. -/
def parseKept (text : String) : Option Json :=
  (parse text).filter (isKeepable 0)

end SeedCleanup.Json

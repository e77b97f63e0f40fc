import SeedCleanup.Text.Chars

/-!
# Path texts

A path is a text whose elements stand between slashes. The last element can be read off in two
ways: `baseName` only drops slashes at the end, while `lastComponent?` also passes over elements
that name no file of their own.
-/

namespace SeedCleanup.Text

/-- The elements of a path, empty ones included. -/
def pathElements (path : List Char) : List (List Char) := splitOnChar '/' path

/-- The last element of a list that is never empty. -/
def lastElement (path : List Char) : List Char := (pathElements path).getLast?.getD []

/-- The last element of a path without the slashes at its end. A path of slashes alone, or an empty
one, is its own name. -/
def baseName (path : String) : String :=
  let trimmed := dropEndWhile (· == '/') path.toList
  if trimmed.isEmpty then path else String.ofList (lastElement trimmed)

/-- The end of the last element from its last dot on, or nothing. -/
def extension (path : String) : String :=
  let name := lastElement path.toList
  if name.contains '.' then
    String.ofList ('.' :: (name.reverse.takeWhile (· != '.')).reverse)
  else ""

/-- The elements of a path that lead somewhere: no empty element, and no dot unless it starts the
path. -/
def components (path : String) : List (List Char) :=
  match pathElements path.toList with
  | [] => []
  | first :: rest =>
    (if first.isEmpty then [] else [first]) ++ rest.filter fun e => !e.isEmpty && e != ['.']

/-- The name of the file that a path leads to, if it ends in a name. -/
def lastComponent? (path : String) : Option String :=
  match (components path).getLast? with
  | none => none
  | some e => if e == ['.'] || e == ['.', '.'] then none else some (String.ofList e)

/-- A path below a directory; an absolute path stands for itself. -/
def joinPath (dir path : String) : String :=
  match path.toList with
  | '/' :: _ => path
  | _ => if dir.isEmpty || dir.toList.getLast? == some '/' then dir ++ path else dir ++ "/" ++ path

end SeedCleanup.Text

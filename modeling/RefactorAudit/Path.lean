-- SUMMARY: Paths in reports, as the parts between their slashes.
import RefactorAudit.Text.Blank

/-!
# Paths

The tools write the same file in many ways: with slashes or backslashes, with doubled slashes and
`.` parts. Two spellings are compared by their parts.
-/

namespace RefactorAudit.Path

/-- Both slashes separate the parts of a path. -/
def isSlash (c : Char) : Bool := c = '/' || c = '\\'

/-- A part that names something: neither empty nor `.`. -/
def isNamed (part : List Char) : Bool := part ≠ [] && part ≠ ['.']

/-- The parts of a path that name something. -/
def parts (path : List Char) : List (List Char) := (Text.split isSlash path).filter isNamed

/-- The parts of a path that name something, as texts. -/
def components (path : String) : List String := (parts path.toList).map String.ofList

/-- Whether a path begins with a slash of either kind. -/
def startsWithSlash : List Char → Bool
  | c :: _ => isSlash c
  | [] => false

/-- Whether a path begins at the root of a file system or of a drive. -/
def isAbsolute (path : String) : Bool :=
  match path.toList with
  | c :: rest => isSlash c || (c.isAlpha && rest.head? = some ':')
  | [] => false

/-- The name of the file that a path of the file system leads to. There only the slash separates. -/
def fileName? (path : String) : Option (List Char) :=
  match ((Text.split (· = '/') path.toList).filter isNamed).getLast? with
  | some ['.', '.'] => none
  | name => name

/-- The ending of a file name, without the dot. A dot at the beginning makes no ending. -/
def ending? (path : String) : Option String := do
  let name := (← fileName? path).reverse
  if ((name.dropWhile (· ≠ '.')).drop 1).isEmpty then none
  else some (String.ofList (name.takeWhile (· ≠ '.')).reverse)

end RefactorAudit.Path

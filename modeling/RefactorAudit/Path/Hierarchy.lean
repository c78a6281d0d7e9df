-- SUMMARY: Parents, joining and ancestors of paths.
import RefactorAudit.Text.Blank

/-!
# The hierarchy of paths

Here a path is a text that is kept as it is written. Only slashes separate its parts; empty parts
and `.` parts name nothing, but a `.` at the very beginning stands for the current directory.
-/

namespace RefactorAudit.Path

/-- Where a path begins. -/
inductive Start where
  | root
  /-- At a `.` for the current directory. -/
  | here
  | nowhere
  deriving DecidableEq, Repr, Inhabited

/-- A path as its start and the parts between the slashes behind it. -/
structure Split where
  start : Start
  parts : List (List Char)
  deriving DecidableEq, Repr, Inhabited

namespace Split

def ofPath (path : List Char) : Split :=
  match Text.split (· = '/') path with
  | [] :: next :: rest => ⟨.root, next :: rest⟩
  | ['.'] :: rest => ⟨.here, rest⟩
  | parts => ⟨.nowhere, parts⟩

/-- Whether a part names something. -/
def names (part : List Char) : Bool := part ≠ [] && part ≠ ['.']

/-- The split without the parts at its end that name nothing. -/
def trimmed (s : Split) : Split :=
  { s with parts := (s.parts.reverse.dropWhile fun part => !names part).reverse }

/-- The text of a path. -/
def toPath (s : Split) : List Char :=
  let body := List.intercalate ['/'] s.parts
  match s.start with
  | .root => '/' :: body
  | .here => if s.parts.isEmpty then ['.'] else '.' :: '/' :: body
  | .nowhere => body

end Split

/-- The path without its last part that names something. The root and the empty path have no
parent. -/
def parent? (path : String) : Option String :=
  let s := (Split.ofPath path.toList).trimmed
  if s.parts.isEmpty then
    if s.start = .here then some "" else none
  else
    let above := { s with parts := s.parts.dropLast }.trimmed
    some (String.ofList above.toPath)

/-- A path and its parents, the nearest first, at most a given number of them. -/
def ancestors : Nat → String → List String
  | 0, _ => []
  | depth + 1, path => path :: ((parent? path).map (ancestors depth)).getD []

/-- A path below a directory. An absolute path stays what it is. -/
def join (directory path : String) : String :=
  if path.startsWith "/" || directory.isEmpty then path
  else if directory.endsWith "/" then directory ++ path
  else directory ++ "/" ++ path

/-- The names of a path below a directory. -/
def joinAll (directory : String) (names : List String) : String := names.foldl join directory

end RefactorAudit.Path

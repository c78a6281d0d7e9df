-- SUMMARY: The one spelling of a path under which all reports about a file meet.
import RefactorAudit.Path

/-!
# Path normalisation

A canonical path has no backslashes, no doubled slashes and no `.` parts. If a part equals the
marker of the project root, the path begins behind the first such part. Otherwise a path under the
root of the repository begins behind that root.
-/

namespace RefactorAudit

structure Normalizer where
  /-- The name of the directory that is the root of the project. An empty one counts as none. -/
  marker : Option String := none
  /-- The root of the repository. -/
  repoRoot : Option String := none
  deriving DecidableEq, Repr, Inhabited

namespace Normalizer

/-- Parts with slashes between. -/
def joined (parts : List (List Char)) : List Char := List.intercalate ['/'] parts

/-- What follows the first part that equals the marker. -/
def afterMarker? (marker : Option String) (parts : List (List Char)) : Option (List (List Char)) :=
  match marker with
  | none => none
  | some marker =>
    if marker.isEmpty || marker.toList ∉ parts then none
    else some ((parts.dropWhile (· ≠ marker.toList)).drop 1)

/-- What follows the root of the repository, if the path and the root are both absolute or both
relative and the path begins with the root. -/
def afterRoot? (root : Option String) (absolute : Bool) (parts : List (List Char)) :
    Option (List (List Char)) :=
  match root with
  | none => none
  | some root =>
    let start := Path.parts root.toList
    if Path.startsWithSlash root.toList = absolute && start.isPrefixOf parts then
      some (parts.drop start.length)
    else none

/-- The canonical characters of a path. -/
def canonical (n : Normalizer) (path : List Char) : List Char :=
  let path := Text.trim path
  let absolute := Path.startsWithSlash path
  let parts := Path.parts path
  match afterMarker? n.marker parts with
  | some rest => joined rest
  | none =>
    match afterRoot? n.repoRoot absolute parts with
    | some rest => joined rest
    | none => if absolute then '/' :: joined parts else joined parts

/-- The canonical path. -/
def normalize (n : Normalizer) (path : String) : String := String.ofList (n.canonical path.toList)

end Normalizer

end RefactorAudit

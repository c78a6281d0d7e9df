-- SUMMARY: Which path of a report means a requested file.
import RefactorAudit.Path

/-!
# Path resolution

Reports and audits may name the same file from different directories. The path that agrees with the
request on the longest tail is taken; at least the file name must agree. Among equally long tails a
path under the root of the repository goes first, then the smaller path.
-/

namespace RefactorAudit.Coverage

/-- The length of the longest common beginning of two lists. -/
def commonStart : List String → List String → Nat
  | x :: xs, y :: ys => if x = y then commonStart xs ys + 1 else 0
  | _, _ => 0

/-- The length of the longest common end of two lists. -/
def commonEnd (xs ys : List String) : Nat := commonStart xs.reverse ys.reverse

/-- Whether a path lies under the root of the repository. Relative paths are taken to start
there. -/
def isUnderRoot (root : Option String) (path : String) : Bool :=
  match root with
  | none => false
  | some root =>
    !Path.isAbsolute path || (Path.components root).isPrefixOf (Path.components path)

/-- How well a path fits a request. -/
structure Fit where
  tail : Nat
  underRoot : Bool
  path : String
  deriving DecidableEq, Repr, Inhabited

namespace Fit

/-- The fit of a path, if at least the file names agree. -/
def of? (root : Option String) (requested : List String) (path : String) : Option Fit :=
  let tail := commonEnd requested (Path.components path)
  if tail > 0 then some { tail, underRoot := isUnderRoot root path, path } else none

/-- Whether one path fits better than another. -/
def better (a b : Fit) : Bool :=
  if a.tail ≠ b.tail then b.tail < a.tail
  else if a.underRoot ≠ b.underRoot then a.underRoot
  else a.path < b.path

/-- The better of two fits. -/
def best (a b : Fit) : Fit := if b.better a then b else a

end Fit

/-- The path that means a requested file. -/
def bestMatch (root : Option String) (candidates : List String) (requested : String) :
    Option String :=
  match candidates.filterMap (Fit.of? root (Path.components requested)) with
  | [] => none
  | fit :: rest => some (rest.foldl Fit.best fit).path

end RefactorAudit.Coverage

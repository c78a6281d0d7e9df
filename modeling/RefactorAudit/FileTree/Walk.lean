-- SUMMARY: The source files below a directory.
import RefactorAudit.FileTree.Exclusion
import RefactorAudit.FileTree.Ignore
import RefactorAudit.Path
import RefactorAudit.Text.Quoted
import RefactorAudit.Warning

/-!
# Walks

A walk finds the Python files below a directory, in ascending order of their names. It passes over
entries that are hidden or ignored, and over files that an exclude pattern matches, be it from the
root of the walk on or as a whole path. Tests are told from other sources by their names.
-/

namespace RefactorAudit

/-! ## Kinds of files -/

/-- Which files a walk is to find. -/
inductive FileKind where
  /-- All but tests. -/
  | source
  | tests
  | all
  deriving DecidableEq, Repr, Inhabited

namespace Path

/-- Whether a file is written in Python. -/
def isSource (path : String) : Bool := ending? path = some "py"

/-- Whether a name is that of a test. -/
def isTestName (name : String) : Bool :=
  name.startsWith "test_" || name.endsWith "_test.py" || name = "conftest.py"

/-- Whether a path is that of a test, by its name or by a directory on the way. -/
def isTest (path : String) : Bool :=
  isTestName (String.ofList ((fileName? path).getD []))
    || (((Text.split (· = '/') path.toList).filter isNamed).dropLast.any fun part =>
      part = "tests".toList || part = "test".toList)

end Path

namespace FileKind

/-- Whether a path, seen from the root of the walk, is of a kind. -/
def accepts (kind : FileKind) (path : String) : Bool :=
  match kind with
  | source => !Path.isTest path
  | tests => Path.isTest path
  | all => true

end FileKind

/-! ## Walks -/

/-- What a walk is to find. -/
structure Walk where
  root : String
  kind : FileKind := .source
  exclude : List Exclusion := []
  deriving Inhabited

namespace Walk

/-- The patterns of a list that are well formed. Each of the others is told in a warning. -/
def exclusions : List String → Noted (List Exclusion)
  | [] => pure []
  | pattern :: rest => do
    match Exclusion.ofText pattern with
    | .ok e => return e :: (← exclusions rest)
    | .error fault =>
      Noted.warn (.invalidExclude (Text.quoted pattern) fault.message)
      exclusions rest

/-- The path of a file that was found. -/
def pathOf (root : String) (names : List String) : String := Path.joinAll root names

/-- Whether a file belongs to what is to be found. -/
def accepts (w : Walk) (names : List String) : Bool :=
  let path := pathOf w.root names
  let relative := "/".intercalate names
  Path.isSource path && !w.exclude.any (fun e => e.excludes relative || e.excludes path)
    && w.kind.accepts relative

mutual

/-- The files at or below a node, by their names from the root of the walk. -/
def filesAt (layers : Layers) (path : String) (names : List String) : Node → List (List String)
  | .file _ => [names]
  | .directory entries => filesIn (layers.enter path (.directory entries)) path names entries

/-- The files below the entries of a directory. -/
def filesIn (layers : Layers) (path : String) (names : List String) :
    List (String × Node) → List (List String)
  | [] => []
  | (name, node) :: rest =>
    let inner := Path.join path name
    (if layers.skips inner name node.isDirectory then []
      else filesAt layers inner (names ++ [name]) node)
      ++ filesIn layers path names rest

end

/-- The files that the walk finds, by their names from its root. A root that is missing is told in a
warning. -/
def files (w : Walk) (t : FileTree) : Noted (List (List String)) := do
  match t.locate w.root with
  | .ok place =>
    return (filesAt (Layers.start t w.root place) w.root [] place.node).filter w.accepts
  | .error refusal =>
    let reason := refusal.message
    Noted.warn <| .unreadableEntry w.root
      s!"{w.root}: IO error for operation on {w.root}: {reason}"
    return []

/-- The files of a kind below a root that no pattern excludes. -/
def run (t : FileTree) (root : String) (kind : FileKind) (exclude : List String) :
    Noted (List (List String)) := do
  let exclude ← exclusions exclude
  files { root, kind, exclude } t

end Walk

end RefactorAudit

-- SUMMARY: Which entries of a tree are ignored.
import RefactorAudit.FileTree
import RefactorAudit.Path.Hierarchy
import RefactorAudit.FileTree.IgnoreRule

/-!
# Ignored entries

Every directory from the one of an entry up to the root of the file system may have rules about it.
The nearest directory with a rule decides. Rules of `.ignore` count more than those of `.gitignore`,
and these more than those of `info/exclude` in the store of the repository. The latter two count
inside a repository only, and not above its root. The store is the directory `.git`; where `.git` is
a file, the repository shares the store of another one, to which the file leads. Entries with a dot
at the beginning of their name are hidden unless a rule keeps them.
-/

namespace RefactorAudit

/-- The rules of a directory. -/
structure Layer where
  /-- The path of the directory. -/
  directory : String
  ignore : List IgnoreRule := []
  gitIgnore : List IgnoreRule := []
  gitExclude : List IgnoreRule := []
  /-- Whether the directory is the root of a repository. -/
  isRepository : Bool := false
  deriving Inhabited

namespace Layer

/-- The rules in a file below a directory. -/
def rulesOf (directory : Node) (names : List String) : List IgnoreRule :=
  match directory.below? names with
  | some (.file contents) => IgnoreRule.ofFile contents
  | _ => []

/-- The first line of a file, if it is text. -/
def firstLine? : Node → Option String
  | .file contents =>
    ((IgnoreRule.textLines (IgnoreRule.linesOf contents.toList)).head?).map String.ofList
  | .directory _ => none

/-- The path of the store that a repository shares: the file `.git` names a directory, in which the
file `commondir` leads on to the store. -/
def sharedStore? (tree : FileTree) (gitFile : Node) : Option String := do
  let own ← Text.dropStart? "gitdir: ".toList (← firstLine? gitFile).toList
  let own := String.ofList own
  let common ← firstLine? (← tree.node? (Path.join own "commondir"))
  return if common.startsWith "." then Path.join own common else common

/-- The exclusions that a repository keeps for itself. -/
def exclusionsOf (tree : FileTree) (directory : Node) : List IgnoreRule :=
  match directory.child? ".git" with
  | some (.file contents) =>
    match sharedStore? tree (.file contents) with
    | some store =>
      match tree.node? (Path.join store "info/exclude") with
      | some (.file contents) => IgnoreRule.ofFile contents
      | _ => []
    | none => []
  | _ => rulesOf directory [".git", "info", "exclude"]

def ofDirectory (tree : FileTree) (path : String) (directory : Node) : Layer :=
  { directory := path
    ignore := rulesOf directory [".ignore"]
    gitIgnore := rulesOf directory [".gitignore"]
    gitExclude := exclusionsOf tree directory
    isRepository := (directory.child? ".git").isSome || (directory.child? ".jj").isSome }

/-- What follows a given beginning, if it stands there. -/
def withoutStart (start cs : List Char) : List Char := (Text.dropStart? start cs).getD cs

/-- A path without a `./` at the beginning. -/
def withoutDot (path : List Char) : List Char := withoutStart ['.', '/'] path

/-- A path as it is seen from a directory above it. A lone name is seen as it is. -/
def seenFrom (directory path : List Char) : List Char :=
  let path := withoutDot path
  let directory := withoutDot directory
  if directory = ['.'] || !path.contains '/' then path
  else
    match Text.dropStart? directory path with
    | some rest => withoutStart ['/'] rest
    | none => path

/-- Whether rules of a directory keep a path. -/
def keeps? (l : Layer) (rules : Layer → List IgnoreRule) (path : List Char) (isDirectory : Bool) :
    Option Bool :=
  IgnoreRule.keeps? (rules l) (IgnoreRule.bytes (seenFrom l.directory.toList path)) isDirectory

end Layer

/-- The rules that count in a directory of a walk. -/
structure Layers where
  tree : FileTree
  /-- The path at which the walk began. -/
  root : String
  /-- The path of the root of the walk from the root of the file system. -/
  absolute : String
  /-- The layers from the directory up to the root of the walk. -/
  inner : List Layer := []
  /-- The layers above the root of the walk, the nearest first. -/
  outer : List Layer := []
  deriving Inhabited

namespace Layers

/-- The layers of the directories above a place, the nearest first. -/
def above (tree : FileTree) (place : FileTree.Place) : List Layer :=
  place.above.zipIdx.map fun (directory, n) =>
    Layer.ofDirectory tree
      (FileTree.absolute (place.names.take (place.names.length - 1 - n))) directory

/-- The layers at the root of a walk. -/
def start (tree : FileTree) (root : String) (place : FileTree.Place) : Layers :=
  { tree, root, absolute := FileTree.absolute place.names, outer := above tree place }

/-- The layers in a directory. -/
def enter (ls : Layers) (path : String) (directory : Node) : Layers :=
  { ls with inner := Layer.ofDirectory ls.tree path directory :: ls.inner }

/-- The path from the root of the file system. -/
def absoluteOf (ls : Layers) (path : List Char) : List Char :=
  let rest :=
    if ls.root = "." then path
    else
      Layer.withoutStart ['/'] (Layer.withoutStart (Layer.withoutDot ls.root.toList) path)
  (Path.join ls.absolute (String.ofList rest)).toList

/-- The elements of a list through the first one that satisfies a test. -/
def through {α : Type} (test : α → Bool) : List α → List α
  | [] => []
  | x :: rest => x :: if test x then [] else through test rest

/-- Whether the rules keep a path. None if there is no rule about it. -/
def keeps? (ls : Layers) (path : String) (isDirectory : Bool) : Option Bool :=
  let path := Layer.withoutDot path.toList
  let all := ls.inner.map (·, path) ++ ls.outer.map (·, ls.absoluteOf path)
  let inRepository := all.any fun (l, _) => l.isRepository
  let repository := if inRepository then through (fun (l, _) => l.isRepository) all else []
  let first (layers : List (Layer × List Char)) (rules : Layer → List IgnoreRule) : Option Bool :=
    layers.findSome? fun (l, path) => l.keeps? rules path isDirectory
  (first all (·.ignore)).or ((first repository (·.gitIgnore)).or (first repository (·.gitExclude)))

/-- Whether an entry of a name is passed over. -/
def skips (ls : Layers) (path name : String) (isDirectory : Bool) : Bool :=
  !(ls.keeps? path isDirectory).getD (!name.startsWith ".")

end Layers

end RefactorAudit

-- SUMMARY: Trees of directories and files, and paths that lead through them.
import RefactorAudit.Collection.Table
import RefactorAudit.Fault
import RefactorAudit.Text.Blank

/-!
# File trees

The files that a run sees are a tree in memory, with a current directory from which relative paths
lead. A path is followed part by part; every part but the last has to be a directory. Runs that see
equal trees give equal answers.
-/

namespace RefactorAudit

/-- A file or a directory. The entries of a directory are in ascending order of their names. -/
inductive Node where
  | file (contents : ByteArray)
  | directory (entries : List (String × Node))
  deriving Inhabited

namespace Node

def isFile : Node → Bool
  | file _ => true
  | directory _ => false

def isDirectory (n : Node) : Bool := !n.isFile

/-- The entries of a directory; a file has none. -/
def entries : Node → Table Node
  | file _ => []
  | directory entries => entries

/-- The entry of a name. -/
def child? (n : Node) (name : String) : Option Node := n.entries.get? name

/-- The entry at the end of a list of names. -/
def below? (n : Node) : List String → Option Node
  | [] => some n
  | name :: rest => (n.child? name).bind fun inner => inner.below? rest

/-- The directory without an entry. -/
def empty : Node := directory []

/-- Changes what stands at the end of a list of names, making directories on the way. -/
def change (f : Option Node → Node) : List String → Option Node → Node
  | [], found => f found
  | name :: rest, found =>
    let entries := (found.map Node.entries).getD []
    directory (Table.put name (change f rest (entries.get? name)) entries)

/-- The text of a file. -/
def text : Node → Except Refusal String
  | file contents =>
    match String.fromUTF8? contents with
    | some text => .ok text
    | none => .error .notText
  | directory _ => .error .isDirectory

end Node

/-- The files that a run sees. -/
structure FileTree where
  root : Node := .empty
  /-- The names that lead from the root to the current directory. -/
  current : List String := []
  deriving Inhabited

namespace FileTree

/-! ## Following paths -/

/-- A place in a tree: its names from the root, and what stands at each of them, the last first. -/
structure Place where
  names : List String := []
  node : Node
  /-- The directories above, the nearest first. -/
  above : List Node := []
  deriving Inhabited

namespace Place

/-- The place of a name in the directory at a place. -/
def enter (p : Place) (name : String) : Except Refusal Place :=
  match p.node with
  | .file _ => .error .notDirectory
  | .directory entries =>
    match Table.get? name entries with
    | some node => .ok { names := p.names ++ [name], node, above := p.node :: p.above }
    | none => .error .absent

/-- Follows one part of a path. Parts that name nothing demand a directory; above the root is the
root. -/
def step (p : Place) (part : String) : Except Refusal Place :=
  if part = "" || part = "." then
    if p.node.isDirectory then .ok p else .error .notDirectory
  else if part = ".." then
    if p.node.isFile then .error .notDirectory
    else
      match p.above with
      | [] => .ok p
      | node :: above => .ok { names := p.names.dropLast, node, above }
  else p.enter part

end Place

/-- The parts of a path between its slashes. -/
def partsOf (path : String) : List String :=
  (Text.split (· = '/') path.toList).map String.ofList

/-- The place from which a path leads. -/
def start (t : FileTree) (path : String) : Except Refusal Place :=
  let root : Place := { node := t.root }
  if path.startsWith "/" then .ok root else t.current.foldlM Place.enter root

/-- The place that a path leads to. The empty path leads nowhere. -/
def locate (t : FileTree) (path : String) : Except Refusal Place :=
  if path = "" then .error .absent
  else do
    let parts := partsOf path
    (if path.startsWith "/" then parts.drop 1 else parts).foldlM Place.step (← t.start path)

/-- The path of names from the root. -/
def absolute (names : List String) : String := "/" ++ "/".intercalate names

/-- The path of the current directory. -/
def currentPath (t : FileTree) : String := absolute t.current

/-- What a path leads to. -/
def node? (t : FileTree) (path : String) : Option Node := (t.locate path).toOption.map (·.node)

/-! ## Files and directories -/

/-- Whether a path leads to a file or directory. -/
def holds (t : FileTree) (path : String) : Bool := (t.node? path).isSome

def isFile (t : FileTree) (path : String) : Bool := (t.node? path).any Node.isFile

def isDirectory (t : FileTree) (path : String) : Bool := (t.node? path).any Node.isDirectory

/-- The text of the file at a path. -/
def text (t : FileTree) (path : String) : Except Refusal String := do (← t.locate path).node.text

/-- The text of the file at a path; a refusal is a fault. -/
def read (t : FileTree) (path : String) : Except Fault String :=
  (t.text path).mapError (Fault.ofRefusal path)

/-- The directory of a path and the name in it at which a file is to be written. A path that ends
with a slash or a `.` part names a directory. -/
def target (t : FileTree) (path : String) : Except Refusal (Place × String) := do
  if path = "" then throw .absent
  let parts := if path.startsWith "/" then (partsOf path).drop 1 else partsOf path
  let named := (parts.reverse.dropWhile (· = "")).reverse
  match named.getLast? with
  | none => throw .isDirectory
  | some name =>
    let place ← named.dropLast.foldlM Place.step (← t.start path)
    if place.node.isFile then throw .notDirectory
    if name = "." || name = ".." || named.length < parts.length then throw .isDirectory
    return (place, name)

/-- Writes a file in a directory that is there. -/
def write (t : FileTree) (path text : String) : Except Refusal FileTree := do
  let (place, name) ← t.target path
  if (place.node.child? name).any Node.isDirectory then throw .isDirectory
  let written := Node.change (fun _ => .file text.toUTF8) (place.names ++ [name]) (some t.root)
  return { t with root := written }

/-- Puts a file below the current directory, with the directories on the way. -/
def put (t : FileTree) (names : List String) (contents : ByteArray) : FileTree :=
  { t with root := Node.change (fun _ => .file contents) (t.current ++ names) (some t.root) }

/-- Makes a directory below the current one, with those on the way. -/
def makeDirectory (t : FileTree) (names : List String) : FileTree :=
  { t with root := Node.change (fun found => found.getD .empty) (t.current ++ names) (some t.root) }

end FileTree

end RefactorAudit

-- SUMMARY: The program.
import RefactorAudit.CommandLine.Run

/-!
# The program

The part of the disk that a command is about is read into a tree, the command is carried out on that
tree, and what it has printed and written is passed on.
-/

namespace RefactorAudit.Disk

/-- Whether the contents of a file are needed that no path names. -/
def isNeeded (name : String) : Bool :=
  Path.isSource name || name = Config.fileName
    || name = ".ignore" || name = ".gitignore" || name = "exclude"

/-- Whether the contents of an entry of a directory are passed over: the objects in the store of a
repository. -/
def isPassedOver (directory name : String) : Bool := directory = ".git" && name = "objects"

/-- What stands at a path of the disk under a name; nothing if there is nothing that can be read. -/
partial def node? (path name : String) (contents : Bool) : IO (Option Node) := do
  try
    let real ← IO.FS.realPath path
    if ← real.isDir then
      let mut entries : Table Node := []
      for entry in ← real.readDir do
        let inner := entry.fileName
        if isPassedOver name inner then
          entries := entries.put inner .empty
        else if let some node ← node? (Path.join path inner) inner (isNeeded inner) then
          entries := entries.put inner node
      return some (.directory entries)
    else if !(← real.pathExists) then return none
    else if contents then return some (.file (← IO.FS.readBinFile path))
    else return some (.file .empty)
  catch _ => return none

def isDirectory (path : String) : IO Bool := do
  try
    (← IO.FS.realPath path).isDir
  catch _ => return false

/-- The names that lead to a path from the root, those of the current directory given. -/
def namesOf (current : List String) (path : String) : List String :=
  (FileTree.partsOf path).foldl
    (fun names part =>
      if part = "" || part = "." then names
      else if part = ".." then names.dropLast
      else names ++ [part])
    (if path.startsWith "/" then [] else current)

/-- The files about a directory that count for all directories below it. -/
def outerFiles : List String := [Config.fileName, ".ignore", ".gitignore", ".git/info/exclude"]

/-- The directories that make a directory the root of a repository. -/
def repositoryMarks : List String := [".git", ".jj"]

/-- Takes up what stands at a path. -/
def load (t : FileTree) (path : String) : IO FileTree := do
  let names := namesOf t.current path
  match ← node? path (names.getLast?.getD "") true with
  | none => return t
  | some node => return { t with root := Node.change (fun _ => node) names (some t.root) }

/-- Takes up a directory without what is in it. -/
def addDirectory (t : FileTree) (names : List String) : FileTree :=
  { t with root := Node.change (fun found => found.getD .empty) names (some t.root) }

/-- Takes up a directory with the files about it, without the rest of what is in it. -/
def loadAround (t : FileTree) (names : List String) : IO FileTree := do
  let path := FileTree.absolute names
  let mut tree := addDirectory t names
  for mark in repositoryMarks do
    if ← isDirectory (Path.join path mark) then tree := addDirectory tree (names ++ [mark])
  for name in outerFiles do
    tree ← load tree (Path.join path name)
  return tree

/-- The part of the disk that some paths lead through. Files that are named are read last, as their
contents are needed whatever their names are. -/
def read (paths : List String) : IO FileTree := do
  let current := namesOf [] (← IO.currentDir).toString
  let mut tree : FileTree := { current }
  for path in "." :: paths do
    let names := namesOf current path
    for n in List.range names.length do
      if ← isDirectory (FileTree.absolute (names.take n)) then
        tree ← loadAround tree (names.take n)
  tree ← loadAround tree current
  for path in paths do
    if ← isDirectory path then tree ← load tree path
  for path in paths do
    if !(← isDirectory path) then tree ← load tree path
  return tree

end RefactorAudit.Disk

open RefactorAudit in
/-- Runs the program. -/
def main (arguments : List String) : IO UInt32 := do
  let environment ← IO.getEnv "REFACTORGUARD_CONFIG"
  let asked := CommandLine.Invocation.read environment arguments
  let paths := (asked.toOption.map (·.paths)).getD []
  let tree ← Disk.read paths
  let styled ← (← IO.getStdout).isTty
  let exit := (CommandLine.execute tree environment arguments styled).value
  let outcome := exit.outcome
  if let some path := asked.toOption.bind (·.command.output?) then
    if let .ok text := outcome.tree.text path then
      if exit.code = 0 then IO.FS.writeFile path text
  IO.print outcome.output
  IO.eprint outcome.errors
  return exit.code.toUInt32

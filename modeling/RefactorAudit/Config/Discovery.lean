-- SUMMARY: Where the settings are found.
import RefactorAudit.Config
import RefactorAudit.FileTree
import RefactorAudit.Path.Hierarchy

/-!
# Finding the configuration

A file that is named has to be there and to be well formed. Otherwise the file with the settings is
looked for in a directory and in those above it. A file that cannot be read or is not well formed is
told in a warning, and the search goes on.
-/

namespace RefactorAudit.Config

/-- How many directories are looked into. -/
def searchDepth : Nat := 10

/-- The configuration of a file, if there is one that can be read. -/
def tryRead (t : FileTree) (path : String) : Noted (Option Config) := do
  match t.text path with
  | .error .absent => return none
  | .error refusal =>
    Noted.warn (.unreadableConfiguration path refusal)
    return none
  | .ok text =>
    match ← (read text).run with
    | .ok config => return some config
    | .error message =>
      Noted.warn (.invalidConfiguration message)
      return none

/-- The configuration of the first of several directories that has one. -/
def firstOf (t : FileTree) : List String → Noted (Option Config)
  | [] => pure none
  | directory :: rest => do
    match ← tryRead t (Path.join directory fileName) with
    | some config => return some config
    | none => firstOf t rest

/-- The configuration for a directory. -/
def discover (t : FileTree) (directory : String) : Noted Config := do
  return (← firstOf t (Path.ancestors searchDepth directory)).getD {}

/-- The configuration of the file that is named, or else the one for the current directory. -/
def load (t : FileTree) (path : Option String) : Attempt Config := do
  match path with
  | none => discover t t.currentPath
  | some path =>
    match t.read path with
    | .error fault => throw fault
    | .ok text =>
      match ← (read text).run with
      | .ok config => return config
      | .error message => throw (.configuration message)

end RefactorAudit.Config

-- SUMMARY: Audits of files and of directories.
import RefactorAudit.Audit.Report
import RefactorAudit.FileTree.Loading

/-!
# Audits of a project

The audit of a directory pairs every source file of it with the file of the same name in the
original directory; a file on one side only is audited as well. What goes wrong with a file is
recorded in the entry of that file, so it does not touch the others.
-/

namespace RefactorAudit.Audit

/-- What all audits of a run have in common. -/
structure Context where
  options : Options := {}
  coverage : Option Coverage.Index := none
  tests : Option Corpus := none
  normalizer : Normalizer := {}
  exclude : List String := []
  deriving Inhabited

/-! ## Pairs of files -/

/-- The entry of a file that cannot be audited, and a warning. -/
def failure (fault : Fault) : Noted Entry := do
  Noted.warn (.unaudited fault)
  return Entry.failed fault.message

/-- The entry of a file that there is in the original only: all of its methods are gone. -/
def removed (t : FileTree) (path : String) (tests : Option Corpus) (c : Context) : Noted Entry := do
  match ← (t.snapshot path).run with
  | .ok before => return analyze (some before) (.empty before.path) none tests c.options
  | .error fault => failure fault

/-- The entry of a file, with the file that it came from, if there is one. An original that cannot
be read is recorded in the entry, and the file is audited without it. -/
def changed (t : FileTree) (original : Option String) (path : String) (tests : Option Corpus)
    (c : Context) : Noted Entry := do
  match ← (t.snapshot path).run with
  | .error fault => failure fault
  | .ok after =>
    let alone := analyze none after c.coverage tests c.options
    match original with
    | none => return alone
    | some path =>
      match ← (t.snapshot path).run with
      | .ok before => return analyze (some before) after c.coverage tests c.options
      | .error fault =>
        Noted.warn (.unaudited fault)
        let message := fault.message
        return { alone with fault := some s!"original: {message}" }

/-- The entry of a pair of files of which either may be missing. -/
def pair (t : FileTree) (original refactored : Option String) (tests : Option Corpus)
    (c : Context) : Noted Entry :=
  match refactored, original with
  | some path, original => changed t original path tests c
  | none, some path => removed t path tests c
  | none, none => pure (Entry.failed "no source on either side")

/-! ## Files -/

def requireFile (t : FileTree) (path : String) : Except Fault Unit :=
  if t.isFile path then .ok () else .error (.notFound path)

def requireDirectory (t : FileTree) (path : String) : Except Fault Unit :=
  if t.isDirectory path then .ok () else .error (.notFound path)

/-- What is required of two paths, the second of which may be missing. -/
def requireBoth (require : String → Except Fault Unit) (path : String) (original : Option String) :
    Attempt Unit :=
  match require path, original.elim (.ok ()) require with
  | .error fault, _ => throw fault
  | .ok (), .error fault => throw fault
  | .ok (), .ok () => pure ()

/-- The audit of one file. -/
def file (t : FileTree) (original : Option String) (path : String) (c : Context) :
    Attempt Report := do
  requireBoth (requireFile t) path original
  if c.tests.isNone then Noted.warn .noTests
  let entry ← pair t original (some path) c.tests c
  return [(c.normalizer.normalize path, entry)]

/-! ## Directories -/

/-- The sources below a root and below the original one, by their names from there, ascending. -/
def sources (t : FileTree) (original : Option String) (root : String) (exclude : List String) :
    Noted (List (List String)) := do
  let found ← Walk.run t root .source exclude
  match original with
  | none => return found
  | some original =>
    let before ← Walk.run t original .source exclude
    return Ascending.ofList (found ++ before)

/-- The entry of a source file, with the key under which it is listed. -/
def listed (t : FileTree) (original : Option String) (root : String) (tests : Corpus) (c : Context)
    (names : List String) : Noted (String × Entry) := do
  let path := Walk.pathOf root names
  let before := (original.map fun root => Walk.pathOf root names).filter t.isFile
  let after := if t.isFile path then some path else none
  let entry ← pair t before after (some tests) c
  return (c.normalizer.normalize path, entry)

/-- The audit of a directory. Without given tests, those below the directory are taken. -/
def directory (t : FileTree) (original : Option String) (root : String) (c : Context) :
    Attempt Report := do
  requireBoth (requireDirectory t) root original
  let tests ← match c.tests with
    | some corpus => pure corpus
    | none => t.discoverCorpus root c.exclude
  let names ← sources t original root c.exclude
  let entries ← (names.mapM (listed t original root tests c) : Noted (List (String × Entry)))
  let report : Report := Table.ofList entries
  if report.faultCount > 0 then
    Noted.warn (.unauditedCount report.faultCount report.length)
  return report

end RefactorAudit.Audit

-- SUMMARY: Sources, tests and reports that are read from files.
import RefactorAudit.Audit.Corpus
import RefactorAudit.Coverage.Reading
import RefactorAudit.FileTree.Walk
import RefactorAudit.Python.Extract
import RefactorAudit.Report.Merge

/-!
# Loading

A file that is named has to be there and to be readable. Of the tests below a directory, those that
cannot be read are passed over with a warning.
-/

namespace RefactorAudit.FileTree

/-- The snapshot of the source file at a path. -/
def snapshot (t : FileTree) (path : String) : Attempt Snapshot := do
  match t.read path with
  | .error fault => throw fault
  | .ok source => Python.snapshot path source

/-- The coverage report at a path. -/
def coverage (t : FileTree) (path : String) : Except Fault Coverage.Index := do
  Coverage.Index.ofReport path (← t.read path)

/-- The report of a source at a path. -/
def records (t : FileTree) (source : Report.Source) (path : String) : Attempt Report.Records := do
  match t.read path with
  | .error fault => throw fault
  | .ok text => Report.read source path text

/-- The merged report at a path. -/
def merged (t : FileTree) (path : String) : Except Fault Report.Merged := do
  let text ← t.read path
  (Report.Merged.read text).mapError (.malformedReport path)

/-- The tests in a number of files. -/
def corpusOf (t : FileTree) : Corpus → List String → Noted Corpus
  | corpus, [] => pure corpus
  | corpus, path :: rest => do
    match t.read path with
    | .ok source => t.corpusOf (corpus.add source) rest
    | .error fault =>
      Noted.warn (.skippedTests fault)
      t.corpusOf corpus rest

/-- The tests in the files of a kind below a root. -/
def corpusBelow (t : FileTree) (root : String) (kind : FileKind) (exclude : List String) :
    Noted Corpus := do
  let found ← Walk.run t root kind exclude
  t.corpusOf .empty (found.map (Walk.pathOf root))

/-- The tests at a path: those of a file, or all files below a directory. -/
def corpus (t : FileTree) (path : String) (exclude : List String) : Attempt Corpus := do
  if !t.holds path then throw (.notFound path)
  if t.isFile path then
    match t.read path with
    | .ok source => return Corpus.empty.add source
    | .error fault => throw fault
  else t.corpusBelow path .all exclude

/-- The tests among the files below a root. -/
def discoverCorpus (t : FileTree) (root : String) (exclude : List String) : Noted Corpus :=
  t.corpusBelow root .tests exclude

end RefactorAudit.FileTree

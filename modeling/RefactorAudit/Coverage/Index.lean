-- SUMMARY: The files of a coverage report.
import RefactorAudit.Collection.Table
import RefactorAudit.Coverage.FileCoverage
import RefactorAudit.Coverage.Resolution
import RefactorAudit.Fault

/-!
# Coverage index

The coverage of files, by the path that the report gives them.
-/

namespace RefactorAudit.Coverage

/-- The formats of coverage reports. -/
inductive Format where
  | xml
  | json
  | lcov
  deriving DecidableEq, Repr, Inhabited

/-- The coverage of files by path. -/
abbrev Files (α : Type := Float) := Table (FileCoverage α)

namespace Files

variable {α : Type}

/-- Makes sure that a path is listed. -/
def touch (path : String) (files : Files α) : Files α := files.update path {} id

/-- Takes up how often a line of a file was executed. -/
def record (path : String) (line hits : Nat) (files : Files α) : Files α :=
  files.update path {} (FileCoverage.record line hits)

end Files

/-- The path under which a file of a report is listed. -/
def key (path : String) : String :=
  let unified := (Text.trim path.toList).map fun c => if c = '\\' then '/' else c
  String.ofList (withoutDots unified)
where
  /-- Drops every `./` at the beginning. -/
  withoutDots : List Char → List Char
    | '.' :: '/' :: rest => withoutDots rest
    | cs => cs

structure Index (α : Type := Float) where
  files : Files α
  /-- The root of the repository, where two paths fit equally well. -/
  repoRoot : Option String
  /-- The format of the report, if there was one. -/
  format : Option Format
  deriving Inhabited

namespace Index

variable {α : Type}

/-- The index without a file. -/
def empty : Index α := { files := [], repoRoot := none, format := none }

def ofFiles (format : Format) (files : Files α) : Index α :=
  { files, repoRoot := none, format := some format }

def withRepoRoot (i : Index α) (root : Option String) : Index α := { i with repoRoot := root }

/-- The entry of a requested file, with its path in the report. -/
def find? (i : Index α) (requested : String) : Option (String × FileCoverage α) := do
  let path ← bestMatch i.repoRoot i.files.names requested
  return (path, ← i.files.get? path)

/-- The entry of a requested file; it is a fault if there is none. -/
def resolve (i : Index α) (requested : String) : Except Fault (String × FileCoverage α) :=
  match i.find? requested with
  | some entry => .ok entry
  | none => .error (.uncovered requested)

end Index

end RefactorAudit.Coverage

-- SUMMARY: The reports that can be merged, and how they are read.
import RefactorAudit.Collection.Ascending
import RefactorAudit.Json.Reader
import RefactorAudit.Warning

/-!
# Report sources

Every tool writes one JSON document. It is an object with a value for each file, or a list of
findings that name their file. What a tool says about a file becomes a record of fields: a value
that is not such a record is put into the field that belongs to the source.
-/

namespace RefactorAudit.Report

open Json (Value Fields)

/-- A tool whose reports are merged. -/
structure Source where
  /-- The name on the command line. -/
  name : String
  /-- The field that belongs to the source. Reports without one consist of records already. -/
  field? : Option String
  deriving DecidableEq, Repr, Inhabited

namespace Source

def prior : Source := { name := "prior", field? := none }

def docstrings : Source := { name := "docstrings", field? := some "docstrings" }

def lint : Source := { name := "lint", field? := some "lint_issues" }

def types : Source := { name := "types", field? := some "type_errors" }

def audit : Source := { name := "audit", field? := none }

/-- The field for a value that is not a record. -/
def wrapField (s : Source) : String := s.field?.getD s.name

/-- The sources of the command line, in the order of merging. -/
def all : List Source := [prior, docstrings, lint, types, audit]

def ofName? (name : String) : Option Source := all.find? fun s => s.name = name

end Source

variable {α : Type}

/-- What a report says about files, by the path that it gives them. -/
abbrev Records (α : Type := Float) := Table (Fields α)

/-- What a source says about a file, as a record. -/
def record (source : Source) (value : Value α) : Fields α :=
  match value with
  | .object fields =>
    if source.field?.isNone || (Table.get? source.wrapField fields).isSome then fields
    else [(source.wrapField, value)]
  | _ => [(source.wrapField, value)]

/-- The fields in which a finding may name its file, the first of them that holds a text
counting. -/
def pathFields : List String := ["filename", "path", "file"]

/-- The file that a finding belongs to. -/
def pathOf? (finding : Value α) : Option String :=
  pathFields.findSome? fun name => (finding.get? name).bind Value.string?

/-- The findings of a list by file, in their order. -/
def grouped (source : Source) (findings : List (Value α)) : Records α :=
  (Ascending.ofList (findings.filterMap pathOf?)).map fun path =>
    (path, record source (.array (findings.filter fun f => pathOf? f = some path)))

/-- How many findings name no file. -/
def pathlessCount (findings : List (Value α)) : Nat := findings.countP fun f => (pathOf? f).isNone

/-- The records in a document; none if it is neither an object nor a list. -/
def recordsOf? (source : Source) : Value α → Option (Records α)
  | .object byPath => some (byPath.map fun (path, value) => (path, record source value))
  | .array findings => some (grouped source findings)
  | _ => none

/-- Reads the report of a source. Findings that name no file are told in a warning. -/
def read (source : Source) (origin text : String) : Attempt Records := do
  match Json.readText .any text with
  | .error message => throw (.malformedReport origin message)
  | .ok document =>
    match recordsOf? source document with
    | none =>
      throw (.malformedReport origin
        "expected an object keyed by file path or a list of findings")
    | some records =>
      let skipped := pathlessCount (document.array?.getD [])
      if skipped > 0 then Noted.warn (.pathlessFindings skipped origin)
      return records

end RefactorAudit.Report

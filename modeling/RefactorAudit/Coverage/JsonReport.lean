-- SUMMARY: Coverage reports in JSON.
import RefactorAudit.Coverage.Index
import RefactorAudit.Json.Reader
import RefactorAudit.Text.Natural

/-!
# JSON coverage reports

The report lists, for each file, the executed and the missing lines, and a summary of the file. Two
paths that are listed under the same key: the last one, in the order of the paths, counts.
-/

namespace RefactorAudit.Coverage.JsonReport

open Json (Shape Value Fields)

/-! ## Shape -/

def lineShape : Shape := .natural "usize" Text.limit64

def countShape : Shape := .natural "u64" Text.limit64

def summaryShape : Shape :=
  .record "JsonSummary" [("covered_lines", false, countShape),
    ("num_statements", false, countShape), ("percent_covered", false, .nullable .float)]

def fileShape : Shape :=
  .record "JsonFileEntry" [("executed_lines", false, .list lineShape),
    ("missing_lines", false, .list lineShape), ("summary", false, .nullable summaryShape)]

/-- What a report looks like. -/
def shape : Shape := .record "CoverageJson" [("files", true, .map fileShape)]

/-! ## Files -/

variable {α : Type} [Figure α]

/-- A field with a number, zero if it is absent. -/
def natField (fields : Fields α) (name : String) : Nat :=
  (((fields.get? name).bind Value.number?).bind (·.toNat?)).getD 0

/-- A field with line numbers, none if it is absent. -/
def linesField (fields : Fields α) (name : String) : List Nat :=
  (((fields.get? name).bind Value.array?).getD []).filterMap fun v => v.number?.bind (·.toNat?)

def summaryOf (fields : Fields α) : CoverageSummary α :=
  { covered := natField fields "covered_lines"
    statements := natField fields "num_statements"
    percent := ((fields.get? "percent_covered").bind Value.number?).map Figure.ofNumber }

/-- The coverage of a file from its entry. -/
def fileOf (fields : Fields α) : FileCoverage α :=
  let start : FileCoverage α :=
    { summary := ((fields.get? "summary").bind Value.object?).map summaryOf }
  let executed := (linesField fields "executed_lines").foldl (fun c line => c.record line 1) start
  (linesField fields "missing_lines").foldl (fun c line => c.record line 0) executed

/-- The files of a report that has the right shape. -/
def filesOf (report : Value α) : Files α :=
  let entries := ((report.get? "files").bind Value.object?).getD []
  Table.ofList (entries.map fun (path, entry) => (key path, fileOf (entry.object?.getD [])))

/-- The files of a report. -/
def read (text : String) : Except String Files := (Json.readText shape text).map filesOf

end RefactorAudit.Coverage.JsonReport

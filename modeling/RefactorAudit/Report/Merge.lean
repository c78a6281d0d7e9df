-- SUMMARY: Reports of several tools, merged to one record a file.
import RefactorAudit.Report.Normalizer
import RefactorAudit.Report.Source

/-!
# Merging

Reports are merged from the first to the last, and each report in the order of its paths. What comes
later replaces fields of the same name as a whole; all other fields stay.
-/

namespace RefactorAudit.Report

open Json (Fields Shape)

variable {α : Type}

/-- The records of files by canonical path. -/
abbrev Merged (α : Type := Float) := Table (Fields α)

/-- Adds the records of one report. -/
def mergeOne (n : Normalizer) (merged : Merged α) (records : Records α) : Merged α :=
  records.foldl
    (fun all (path, fields) => all.update (n.normalize path) [] fun found => found.putAll fields)
    merged

/-- The reports merged from left to right. -/
def merge (n : Normalizer) (reports : List (Records α)) : Merged α := reports.foldl (mergeOne n) []

/-- What the document of a merged report looks like. -/
def Merged.shape : Shape := .map (.map .any)

/-- The document of a merged report. -/
def Merged.toJson (m : Merged α) : Json.Value α :=
  .object (m.map fun (path, fields) => (path, .object fields))

/-- A merged report from a document of its shape. -/
def Merged.ofJson (document : Json.Value α) : Merged α :=
  (document.object?.getD []).map fun (path, v) => (path, v.object?.getD [])

/-- Reads a merged report; a fault is put into words. -/
def Merged.read (text : String) : Except String Merged :=
  (Json.readText Merged.shape text).map Merged.ofJson

end RefactorAudit.Report

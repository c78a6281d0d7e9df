-- SUMMARY: Coverage reports of every format.
import RefactorAudit.Coverage.Cobertura
import RefactorAudit.Coverage.JsonReport
import RefactorAudit.Coverage.Tracefile

/-!
# Reading coverage reports

The format of a report is told by the ending of its name, and otherwise by how its text begins.
-/

namespace RefactorAudit.Coverage

namespace Format

/-- The format that goes with an ending. -/
def ofEnding? (ending : String) : Option Format :=
  let ending := ending.toLower
  if ending = "xml" then some xml
  else if ending = "json" then some json
  else if ending = "info" || ending = "lcov" then some lcov
  else none

/-- The format that a text begins like. -/
def ofText? (text : String) : Option Format :=
  let cs := text.toList.dropWhile Text.isBlank
  if "<".toList.isPrefixOf cs then some xml
  else if "\x7b".toList.isPrefixOf cs then some json
  else if "TN:".toList.isPrefixOf cs || "SF:".toList.isPrefixOf cs then some lcov
  else none

/-- The format of a report. -/
def detect? (path text : String) : Option Format :=
  ((Path.ending? path).bind ofEnding?).or (ofText? text)

end Format

/-- The files of a report of a format; a fault is put into words. -/
def Format.files (format : Format) (text : String) : Except String Files :=
  match format with
  | xml => (Cobertura.read text).mapError (·.message)
  | json => JsonReport.read text
  | lcov => (Tracefile.read text).mapError fun (line, problem) => Tracefile.message line problem

namespace Index

/-- The index of a report of a format. -/
def ofText (format : Format) (origin text : String) : Except Fault Index :=
  match format.files text with
  | .ok files => .ok (ofFiles format files)
  | .error message => .error (.malformedReport origin message)

/-- The index of a report whose format is to be detected. -/
def ofReport (origin text : String) : Except Fault Index :=
  match Format.detect? origin text with
  | some format => ofText format origin text
  | none => .error (.malformedReport origin "unrecognized coverage report format")

end Index

end RefactorAudit.Coverage

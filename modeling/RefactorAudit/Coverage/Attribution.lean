-- SUMMARY: The coverage of a file, handed to its methods.
import RefactorAudit.Coverage.Index
import RefactorAudit.Snapshot

/-!
# Attribution

A method gets the lines of the report that lie between its first and its last line. Where a report
has no lines for a file, all of its methods get the ratio of the summary. A file that the report
does not know is not covered at all.
-/

namespace RefactorAudit

variable {α : Type} [Figure α]

/-- The method with the coverage of its lines. -/
def Method.covered (file : FileCoverage α) (m : Method α) : Method α :=
  if file.hasLines then
    let (hit, total) := file.countsIn m.startLine m.endLine
    let ratio := if total > 0 then Figure.ofNat hit / Figure.ofNat total else Figure.ofNat 0
    { m with coverage := some ratio, linesHit := hit, linesTotal := total }
  else
    let ratio := (file.summary.map (·.ratio)).getD (Figure.ofNat 0)
    { m with coverage := some ratio, linesHit := 0, linesTotal := 0 }

/-- The method as one that was never executed. -/
def Method.uncovered (m : Method α) : Method α :=
  { m with coverage := some (Figure.ofNat 0), linesHit := 0, linesTotal := 0 }

namespace Snapshot

/-- The snapshot with no line covered. -/
def uncovered (s : Snapshot α) : Snapshot α := s.withMethods (s.methods.map Method.uncovered)

/-- The snapshot with the coverage of its file. -/
def annotate (s : Snapshot α) (index : Coverage.Index α) : Snapshot α :=
  match index.find? s.path with
  | some (_, file) => s.withMethods (s.methods.map (Method.covered file))
  | none => s.uncovered

end Snapshot

end RefactorAudit

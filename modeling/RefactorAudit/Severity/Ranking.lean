-- SUMMARY: The files of a merged report, the most severe first.
import RefactorAudit.Severity.Score
import RefactorAudit.Terminal.Grid

/-!
# Ranking

Files are listed by falling score, files of equal score by path. Scores are compared by the total
order of floats, in which every float has its own place, minus zero before zero and what is not a
number at the ends.
-/

namespace RefactorAudit.Severity

open Json (Value)

/-- The place of a float in the total order. -/
def place (x : Float) : Int :=
  let bits := x.toBits.toNat
  let half := Nat.pow 2 63
  if bits < half then bits else (half : Int) - 1 - bits

/-- A file with its severity. -/
structure Ranked where
  path : String
  severity : Severity
  deriving Repr, Inhabited

namespace Ranked

/-- Whether a file is listed before another one, or may be. -/
def before (a b : Ranked) : Bool :=
  let x := place a.severity.score
  let y := place b.severity.score
  if x = y then a.path ≤ b.path else y < x

/-- A file of the ranking as a JSON object. -/
def toJson (r : Ranked) : Value :=
  .object [("path", .string r.path), ("score", .ofFloat r.severity.score),
    ("type_errors", .ofNat r.severity.typeErrors), ("lint_issues", .ofNat r.severity.lintIssues),
    ("avg_complexity", .ofFloat r.severity.averageComplexity),
    ("coverage_pct", .ofFloat r.severity.coveragePercent)]

/-- The cells of a file at a position. -/
def texts (position : Nat) (r : Ranked) : List String :=
  [toString position, r.path, Decimal.fixed 2 r.severity.score, toString r.severity.typeErrors,
    toString r.severity.lintIssues, Decimal.fixed 2 r.severity.averageComplexity,
    Decimal.fixed 1 r.severity.coveragePercent]

end Ranked

/-- The files of a report, the most severe first. -/
def rank (w : Weights) (report : Report.Merged) : List Ranked :=
  (report.map fun (path, fields) => { path, severity := ofRecord w fields : Ranked }).mergeSort
    Ranked.before

namespace Ranking

/-- The ranking as JSON. -/
def toJson (ranking : List Ranked) : Value := .array (ranking.map Ranked.toJson)

def header : List String :=
  ["#", "File", "Score", "Type errors", "Lint issues", "Avg complexity", "Coverage %"]

/-- The ranking as a table. -/
def text (ranking : List Ranked) : String :=
  if ranking.isEmpty then "No files to rank\n"
  else
    let rows := ranking.zipIdx.map fun (r, n) => Terminal.Grid.cells (r.texts (n + 1))
    "".intercalate ((Terminal.Grid.lines (Terminal.Grid.cells header) rows).map (· ++ "\n"))

end Ranking

end RefactorAudit.Severity

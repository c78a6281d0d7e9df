-- SUMMARY: The severity of a file.
import RefactorAudit.Report.Merge
import RefactorAudit.Severity.Weights

/-!
# Scores

The score of a file is the weighted sum of its type errors, its lint issues, its average complexity
and the share of it that is not covered. Figures that a record does not give are computed from its
methods; what is missing there too counts as zero.
-/

namespace RefactorAudit

open Json (Value Fields)

variable {α : Type} [Figure α]

/-! ## Figures of a record -/

namespace Record

/-- The number in a field. -/
def number? (fields : Fields α) (name : String) : Option α :=
  ((fields.get? name).bind Value.number?).map Figure.ofNumber

/-- How many things a field tells of: a list or an object has its parts, and what is neither these
nor a number tells of none. -/
def count (fields : Fields α) (name : String) : Nat :=
  match fields.get? name with
  | some (.number (.int n)) => n.toNat
  | some (.number (.float x)) => Figure.toCount x
  | some (.array items) => items.length
  | some (.object parts) => parts.length
  | _ => 0

/-- The methods that a record lists. -/
def methods (fields : Fields α) : List (Fields α) :=
  (((fields.get? "complexity").bind Value.object?).getD []).filterMap fun entry => entry.2.object?

/-- The average complexity that is given, or that of the methods. -/
def averageComplexity (fields : Fields α) : α :=
  match number? fields "avg_complexity" with
  | some average => average
  | none =>
    let values := (methods fields).filterMap fun m => number? m "complexity"
    if values.isEmpty then Figure.ofNat 0 else Figure.mean values

/-- What a method tells about its coverage. -/
structure MethodCoverage (α : Type := Float) where
  ratio : α
  hit : α
  total : α

def methodCoverage? (m : Fields α) : Option (MethodCoverage α) :=
  (number? m "coverage").map fun ratio =>
    { ratio
      hit := (number? m "lines_hit").getD (Figure.ofNat 0)
      total := (number? m "lines_total").getD (Figure.ofNat 0) }

/-- The coverage in percent that is given, or that of the methods, weighted by their lines. -/
def coveragePercent? (fields : Fields α) : Option α :=
  match number? fields "coverage_pct" with
  | some percent => some percent
  | none =>
    let covered := (methods fields).filterMap methodCoverage?
    if covered.isEmpty then none
    else
      let total := Figure.sum (covered.map (·.total))
      if Figure.less (Figure.ofNat 0) total then
        some (Figure.sum (covered.map (·.hit)) / total * Figure.ofNat 100)
      else some (Figure.mean (covered.map (·.ratio)) * Figure.ofNat 100)

end Record

/-! ## Scores -/

/-- The severity of a file, with the figures it is made of. -/
@[ext]
structure Severity (α : Type := Float) where
  score : α
  typeErrors : Nat
  lintIssues : Nat
  averageComplexity : α
  coveragePercent : α
  deriving Repr, Inhabited

namespace Severity

/-- The weighted sum. -/
def weigh (w : Weights α) (typeErrors lintIssues averageComplexity coveragePercent : α) : α :=
  w.typeErrors * typeErrors + w.lintIssues * lintIssues + w.complexity * averageComplexity
    + w.coverageDeficit * (Figure.ofNat 100 - coveragePercent)

/-- The severity of the file with the given record. -/
def ofRecord (w : Weights α) (fields : Fields α) : Severity α :=
  let typeErrors := Record.count fields "type_errors"
  let lintIssues := Record.count fields "lint_issues"
  let zero : α := Figure.ofNat 0
  let average := Record.averageComplexity fields
  let average := if Figure.less average zero then zero else average
  let percent :=
    Figure.clamp zero (Figure.ofNat 100) ((Record.coveragePercent? fields).getD zero)
  { score := weigh w (Figure.ofNat typeErrors) (Figure.ofNat lintIssues) average percent
    typeErrors
    lintIssues
    averageComplexity := average
    coveragePercent := percent }

end Severity

end RefactorAudit

-- SUMMARY: How much each kind of finding counts.
import RefactorAudit.Decimal.Layout
import RefactorAudit.Figure

/-!
# Weights

The severity of a file is a weighted sum. A weight is usable if it is finite and greater than zero,
so that no finding ever makes a file look better.
-/

namespace RefactorAudit.Severity

structure Weights (α : Type := Float) where
  typeErrors : α
  lintIssues : α
  complexity : α
  coverageDeficit : α
  deriving Repr, Inhabited

namespace Weights

/-- The weights that count where none are given. -/
def standard : Weights :=
  { typeErrors := 3.0, lintIssues := 1.0, complexity := 2.0, coverageDeficit := 0.5 }

/-- A usable weight is finite and greater than zero. -/
def isUsable (weight : Float) : Bool := weight.isFinite && weight > 0.0

/-- The weights with their names. -/
def named (w : Weights) : List (String × Float) :=
  [("Type errors", w.typeErrors), ("Lint issues", w.lintIssues), ("Complexity", w.complexity),
    ("Coverage deficit", w.coverageDeficit)]

/-- What is wrong with the first weight that is not usable. -/
def problem? (w : Weights) : Option String :=
  (w.named.find? fun (_, weight) => !isUsable weight).map fun (name, weight) =>
    let text := Decimal.messageLayout.float weight
    s!"{name} weight must be a positive number, got {text}"

end Weights

end RefactorAudit.Severity

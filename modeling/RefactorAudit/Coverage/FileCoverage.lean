-- SUMMARY: Which lines of a file can be executed, and which of them were.
import RefactorAudit.Collection.Ascending
import RefactorAudit.Figure

/-!
# Coverage of a file

Line data are two sets of line numbers: the executable lines, and those of them that were hit. A
report may also, or only, give a summary of the whole file.
-/

namespace RefactorAudit

/-- The totals of a file. -/
structure CoverageSummary (α : Type := Float) where
  covered : Nat
  statements : Nat
  percent : Option α
  deriving DecidableEq, Repr, Inhabited

/-- The share of covered statements, between zero and one; it comes from the percentage if there are
no statements. -/
def CoverageSummary.ratio {α : Type} [Figure α] (s : CoverageSummary α) : α :=
  let zero := Figure.ofNat 0
  let one := Figure.ofNat 1
  if s.statements > 0 then
    Figure.clamp zero one (Figure.ofNat s.covered / Figure.ofNat s.statements)
  else
    match s.percent with
    | some percent => Figure.clamp zero one (percent / Figure.ofNat 100)
    | none => zero

structure FileCoverage (α : Type := Float) where
  /-- The lines that were executed, ascending. -/
  hit : List Nat := []
  /-- The lines that can be executed, ascending. -/
  executable : List Nat := []
  summary : Option (CoverageSummary α) := none
  deriving DecidableEq, Repr, Inhabited

namespace FileCoverage

variable {α : Type}

/-- Takes up how often a line was executed. A line once hit stays hit. -/
def record (line hits : Nat) (c : FileCoverage α) : FileCoverage α :=
  { c with
    executable := Ascending.insert line c.executable
    hit := if hits > 0 then Ascending.insert line c.hit else c.hit }

def hasLines (c : FileCoverage α) : Bool := !c.executable.isEmpty

/-- How many lines from the first to the last were hit, and how many are executable. -/
def countsIn (c : FileCoverage α) (first last : Nat) : Nat × Nat :=
  let within (line : Nat) : Bool := first ≤ line && line ≤ last
  (c.hit.countP within, c.executable.countP within)

theorem mem_executable_record {line hits n : Nat} {c : FileCoverage α} :
    n ∈ (c.record line hits).executable ↔ n = line ∨ n ∈ c.executable := by
  simp [record]

theorem mem_hit_record {line hits n : Nat} {c : FileCoverage α} :
    n ∈ (c.record line hits).hit ↔ (n = line ∧ hits > 0) ∨ n ∈ c.hit := by
  simp only [record]
  split <;> simp_all

end FileCoverage

end RefactorAudit

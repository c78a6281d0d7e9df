-- SUMMARY: The exact figures of a list of methods.
import RefactorAudit.Proofs.Figure.Exact
import RefactorAudit.Snapshot
import Mathlib.Algebra.BigOperators.Ring.Finset
import Mathlib.Tactic.Linarith

/-!
# Figures of methods

In exact arithmetic the average complexity of methods is a mean, and it is never negative. Where
each method has a ratio of its hit lines, so has the whole list, in percent. The coverage that the
program computes is that of the sums it keeps: it is the exact one if they fit into 64 bits.
-/

namespace RefactorAudit

variable {α : Type}

/-- The coverage of a method is a share of its lines; without lines it is some share. -/
structure Method.Measured (m : Method ℚ) (ratio : ℚ) : Prop where
  coverage : m.coverage = some ratio
  nonneg : 0 ≤ ratio
  le_one : ratio ≤ 1
  exact : 0 < m.linesTotal → ratio = m.linesHit / m.linesTotal

namespace Methods

/-! ## Sums -/

theorem total_eq (count : Method α → Nat) (methods : List (Method α)) :
    total count methods = (methods.map count).sum := by
  induction methods with
  | nil => rfl
  | cons m rest ih => rw [total, ih, List.map_cons, List.sum_cons]

theorem total_le_total {a b : Method α → Nat} {methods : List (Method α)}
    (h : ∀ m ∈ methods, a m ≤ b m) : total a methods ≤ total b methods := by
  rw [total_eq, total_eq]
  exact List.sum_le_sum h

variable {methods : List (Method ℚ)}

theorem averageComplexity_eq_mean (methods : List (Method ℚ)) :
    averageComplexity methods =
      if methods = [] then 0 else (methods.map fun m => (m.complexity : ℚ)).sum / methods.length := by
  simp [averageComplexity, Figure.mean_eq]

theorem averageComplexity_nonneg (methods : List (Method ℚ)) :
    (0 : ℚ) ≤ averageComplexity methods := by
  rw [averageComplexity_eq_mean]
  split
  · exact le_refl 0
  · have hsum : 0 ≤ (methods.map fun m => (m.complexity : ℚ)).sum := List.sum_nonneg (by simp)
    positivity

/-- Methods that are all measured have a coverage in percent, the share of all their lines if they
have any. -/
theorem exists_coveragePercent (hne : methods ≠ []) (hmeasured : ∀ m ∈ methods, ∃ r, m.Measured r)
    (hlines : ∀ m ∈ methods, m.linesHit ≤ m.linesTotal) :
    ∃ percent, coveragePercent methods = some percent ∧ 0 ≤ percent ∧ percent ≤ 100 ∧
      (0 < total (·.linesTotal) methods →
        percent = 100 * total (·.linesHit) methods / total (·.linesTotal) methods) := by
  have hcovered : methods.filter (·.coverage.isSome) = methods := by
    refine List.filter_eq_self.2 fun m hm => ?_
    obtain ⟨ratio, hratio⟩ := hmeasured m hm
    simp [hratio.coverage]
  simp only [coveragePercent, hcovered, List.isEmpty_iff, hne, if_false, Figure.keep_eq]
  split
  · next hpos =>
    have hle : (total (·.linesHit) methods : ℚ) ≤ total (·.linesTotal) methods :=
      Nat.cast_le.2 (total_le_total hlines)
    have hone := div_le_one_of_le₀ hle (Nat.cast_nonneg _)
    refine ⟨_, rfl, ?_, ?_, fun _ => ?_⟩
    · rw [Figure.percent_eq]
      positivity
    · rw [Figure.percent_eq]
      linarith
    · rw [Figure.percent_eq, mul_comm, mul_div_assoc]
  · next hnone =>
    have hratios : ∀ x ∈ methods.filterMap (·.coverage), 0 ≤ x ∧ x ≤ 1 := by
      intro x hx
      obtain ⟨m, hm, hsome⟩ := List.mem_filterMap.1 hx
      obtain ⟨ratio, hratio⟩ := hmeasured m hm
      obtain rfl : ratio = x := Option.some.inj (hratio.coverage.symm.trans hsome)
      exact ⟨hratio.nonneg, hratio.le_one⟩
    have hnonneg := Figure.mean_nonneg fun x hx => (hratios x hx).1
    have hone := Figure.mean_le_one fun x hx => (hratios x hx).2
    refine ⟨_, rfl, ?_, ?_, fun hpos => absurd hpos hnone⟩
    · rw [Figure.ofNat_eq]
      exact mul_nonneg hnonneg (Nat.cast_nonneg _)
    · rw [Figure.ofNat_eq]
      exact mul_le_of_le_one_left (Nat.cast_nonneg _) hone

/-! ## Sums of 64 bits -/

/-- The sums of lines over the methods with a coverage have at most 64 bits. -/
structure Fit (methods : List (Method ℚ)) : Prop where
  total : total (·.linesTotal) (methods.filter (·.coverage.isSome)) < 2 ^ 64
  hit : Methods.total (·.linesHit) (methods.filter (·.coverage.isSome)) < 2 ^ 64

end Methods

end RefactorAudit

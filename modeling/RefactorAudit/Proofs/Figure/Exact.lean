-- SUMMARY: Figures in exact arithmetic: sums, means, shares and bounds of rational numbers.
import RefactorAudit.Figure
import Mathlib.Algebra.Order.BigOperators.Group.List
import Mathlib.Algebra.Order.Field.Rat
import Mathlib.Tactic.Linarith
import Mathlib.Tactic.Positivity

/-!
# Exact figures

Read with rational numbers, the operations on figures are those of ordered fields: the sum from the
left is the sum, so it does not depend on the order, and clamping keeps a number between its bounds.
Rounding to a count is monotone, and a whole number that fits into 64 bits is its own count.
-/

namespace RefactorAudit.Figure

variable {xs ys : List ℚ} {low high x : ℚ}

@[simp] theorem ofNat_eq (n : Nat) : (ofNat n : ℚ) = n := by
  simp [ofNat, ofInt]

@[simp] theorem ofNumber_float {α : Type} [Figure α] (x : α) : ofNumber (.float x) = x := rfl

@[simp] theorem less_eq (x y : ℚ) : less x y = decide (x < y) := rfl

@[simp] theorem keep_eq (n : Nat) : keep ℚ n = n := rfl

/-! ## Sums and means -/

theorem sum_eq (xs : List ℚ) : sum xs = xs.sum := by
  cases xs with
  | nil => exact ofNat_eq 0
  | cons x rest =>
    rw [List.sum_eq_foldl, List.foldl_cons, zero_add]
    rfl

theorem mean_eq (xs : List ℚ) : mean xs = xs.sum / xs.length := by
  rw [mean, sum_eq, ofNat_eq]

theorem percent_eq (part whole : Nat) : (percent part whole : ℚ) = part / whole * 100 := by
  rw [percent, ofNat_eq, ofNat_eq, ofNat_eq]
  rfl

theorem mean_of_perm (h : xs.Perm ys) : mean xs = mean ys := by
  rw [mean_eq, mean_eq, h.sum_eq, h.length_eq]

/-! ## Bounds -/

theorem clamp_eq (h : low ≤ high) (x : ℚ) : clamp low high x = max low (min high x) := by
  simp only [clamp, less_eq, decide_eq_true_eq]
  split
  · next hlow => rw [min_eq_right (hlow.le.trans h), max_eq_left hlow.le]
  · next hlow =>
    rw [not_lt] at hlow
    split
    · next hhigh => rw [min_eq_left hhigh.le, max_eq_right h]
    · next hhigh => rw [min_eq_right (not_lt.1 hhigh), max_eq_right hlow]

theorem le_clamp (h : low ≤ high) (x : ℚ) : low ≤ clamp low high x := by
  rw [clamp_eq h]
  exact le_max_left _ _

theorem clamp_le (h : low ≤ high) (x : ℚ) : clamp low high x ≤ high := by
  rw [clamp_eq h]
  exact max_le h (min_le_left _ _)

theorem clamp_le_clamp {y : ℚ} (h : low ≤ high) (hxy : x ≤ y) :
    clamp low high x ≤ clamp low high y := by
  rw [clamp_eq h, clamp_eq h]
  exact max_le_max le_rfl (min_le_min le_rfl hxy)

theorem mean_le_mean (h : List.Forall₂ (· ≤ ·) xs ys) : mean xs ≤ mean ys := by
  rw [mean_eq, mean_eq, h.length_eq]
  exact div_le_div_of_nonneg_right h.sum_le_sum (Nat.cast_nonneg _)

theorem mean_nonneg (h : ∀ x ∈ xs, 0 ≤ x) : 0 ≤ mean xs := by
  rw [mean_eq]
  have hsum := List.sum_nonneg h
  positivity

theorem mean_le_one (h : ∀ x ∈ xs, x ≤ 1) : mean xs ≤ 1 := by
  have hsum : xs.sum ≤ xs.length := by
    simpa using List.sum_le_card_nsmul xs 1 h
  rw [mean_eq]
  exact div_le_one_of_le₀ hsum (Nat.cast_nonneg _)

/-! ## Counts -/

theorem toCount_le_toCount {y : ℚ} (h : x ≤ y) : toCount x ≤ toCount y := by
  have hfloor : (x + 1 / 2).floor ≤ (y + 1 / 2).floor := by
    apply Rat.floor_monotone
    linarith
  exact min_le_min_right _ (Int.toNat_le_toNat hfloor)

theorem toCount_intCast {n : ℤ} (h : n < 2 ^ 64) : toCount (n : ℚ) = n.toNat := by
  have hfloor : ((n : ℚ) + 1 / 2).floor = n := by
    apply le_antisymm
    · apply Int.le_of_lt_add_one
      rw [Rat.floor_lt_iff]
      push_cast
      linarith
    · rw [Rat.le_floor_iff]
      linarith
  have hle : n.toNat ≤ Nat.pow 2 64 - 1 := by
    simp only [Nat.pow_eq]
    omega
  simp only [toCount, hfloor]
  exact min_eq_left hle

end RefactorAudit.Figure

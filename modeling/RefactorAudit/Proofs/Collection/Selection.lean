-- SUMMARY: Choosing elements of a list, and counting those that are chosen in several ways.
import Mathlib.Algebra.GroupWithZero.Nat
import Mathlib.Data.List.Forall2

/-!
# Selection

Two facts on lists. The images of the elements that have one are those of a filtered list, one for
each. And if no element is chosen in two ways, the numbers of those chosen in each way add up.
-/

namespace RefactorAudit.Selection

variable {α β : Type}

theorem forall₂_filterMap {R : α → β → Prop} {p : α → Prop} [DecidablePred p] {f : α → Option β}
    {xs : List α} (hsome : ∀ x ∈ xs, p x → ∃ y, f x = some y ∧ R x y)
    (hnone : ∀ x ∈ xs, ¬ p x → f x = none) :
    List.Forall₂ R (xs.filter fun x => p x) (xs.filterMap f) := by
  induction xs with
  | nil => exact .nil
  | cons x xs ih =>
    have hrest := ih (fun y hy => hsome y (List.mem_cons_of_mem _ hy))
      fun y hy => hnone y (List.mem_cons_of_mem _ hy)
    by_cases hp : p x
    · obtain ⟨y, hy, hR⟩ := hsome x List.mem_cons_self hp
      rw [List.filter_cons, if_pos (decide_eq_true hp), List.filterMap_cons_some hy]
      exact .cons hR hrest
    · rw [List.filter_cons, if_neg (mt of_decide_eq_true hp),
        List.filterMap_cons_none (hnone x List.mem_cons_self hp)]
      exact hrest

theorem countP_or_eq_add {p q : β → Bool} {ys : List β} (h : ∀ y ∈ ys, ¬ (p y ∧ q y)) :
    ys.countP (fun y => p y || q y) = ys.countP p + ys.countP q := by
  induction ys with
  | nil => rfl
  | cons y ys ih =>
    have hrest := ih fun z hz => h z (List.mem_cons_of_mem _ hz)
    have hy := h y List.mem_cons_self
    rw [List.countP_cons, List.countP_cons, List.countP_cons, hrest]
    cases hp : p y <;> cases hq : q y <;> simp_all <;> omega

theorem countP_any_eq_sum {p : α → β → Bool} {xs : List α} {ys : List β}
    (h : xs.Pairwise fun x x' => ∀ y ∈ ys, ¬ (p x y ∧ p x' y)) :
    ys.countP (fun y => xs.any (p · y)) = (xs.map fun x => ys.countP (p x)).sum := by
  induction xs with
  | nil => exact List.countP_false ▸ rfl
  | cons x xs ih =>
    obtain ⟨hx, hrest⟩ := List.pairwise_cons.1 h
    simp only [List.any_cons, List.map_cons, List.sum_cons, ← ih hrest]
    refine countP_or_eq_add fun y hy ⟨hp, hany⟩ => ?_
    obtain ⟨x', hx', hp'⟩ := List.any_eq_true.1 hany
    exact hx x' hx' y hy ⟨hp, hp'⟩

end RefactorAudit.Selection

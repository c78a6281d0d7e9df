-- SUMMARY: The path that is taken for a requested file fits it best, whatever the order of the paths.
import RefactorAudit.Coverage.Resolution
import Mathlib.Data.Prod.Lex
import Mathlib.Data.String.Basic
import Mathlib.Order.Bounds.Basic

/-!
# Resolution

The fits of the paths are ordered by three keys, the last of them reversed. As the last key is the
path itself, the best fit is the one maximum of a set, and neither the order of the paths nor their
repetition matters.
-/

namespace RefactorAudit.Coverage

variable {root : Option String} {candidates : List String} {requested path : String}

/-! ## Common ends -/

theorem isGreatest_commonStart (xs ys : List String) :
    IsGreatest {n | ∃ s, s <+: xs ∧ s <+: ys ∧ s.length = n} (commonStart xs ys) := by
  fun_induction commonStart xs ys with
  | case1 xs y ys ih =>
    obtain ⟨⟨s, hxs, hys, hlength⟩, hmax⟩ := ih
    refine ⟨⟨y :: s, ?_, ?_, by rw [List.length_cons, hlength]⟩, ?_⟩
    · exact List.cons_prefix_cons.2 ⟨rfl, hxs⟩
    · exact List.cons_prefix_cons.2 ⟨rfl, hys⟩
    · rintro n ⟨s', hxs', hys', rfl⟩
      cases s' with
      | nil => exact Nat.zero_le _
      | cons z s' =>
        have hxs' := (List.cons_prefix_cons.1 hxs').2
        have hys' := (List.cons_prefix_cons.1 hys').2
        exact Nat.succ_le_succ (hmax ⟨s', hxs', hys', rfl⟩)
  | case2 x xs y ys hne =>
    refine ⟨⟨[], List.nil_prefix, List.nil_prefix, rfl⟩, ?_⟩
    rintro n ⟨s, hxs, hys, rfl⟩
    cases s with
    | nil => exact Nat.le_refl 0
    | cons z s =>
      obtain rfl := (List.cons_prefix_cons.1 hxs).1
      exact absurd (List.cons_prefix_cons.1 hys).1 hne
  | case3 xs ys hnil =>
    refine ⟨⟨[], List.nil_prefix, List.nil_prefix, rfl⟩, ?_⟩
    rintro n ⟨s, hxs, hys, rfl⟩
    cases s with
    | nil => exact Nat.le_refl 0
    | cons z s =>
      obtain ⟨t, rfl⟩ := hxs
      obtain ⟨u, rfl⟩ := hys
      exact absurd rfl (hnil z (s ++ t) z (s ++ u) rfl)

/-- The common end of two lists is as long as the longest list that both end with. -/
theorem isGreatest_commonEnd (xs ys : List String) :
    IsGreatest {n | ∃ s, s <:+ xs ∧ s <:+ ys ∧ s.length = n} (commonEnd xs ys) := by
  obtain ⟨⟨s, hxs, hys, hlength⟩, hmax⟩ := isGreatest_commonStart xs.reverse ys.reverse
  refine ⟨⟨s.reverse, ?_, ?_, by rw [List.length_reverse, hlength, commonEnd]⟩, ?_⟩
  · exact List.reverse_prefix.1 (s.reverse_reverse.symm ▸ hxs)
  · exact List.reverse_prefix.1 (s.reverse_reverse.symm ▸ hys)
  · rintro n ⟨s', hxs', hys', rfl⟩
    exact hmax ⟨s'.reverse, List.reverse_prefix.2 hxs', List.reverse_prefix.2 hys',
      List.length_reverse⟩

theorem commonEnd_pos_iff {xs ys : List String} :
    0 < commonEnd xs ys ↔ ∃ x, xs.getLast? = some x ∧ ys.getLast? = some x := by
  rw [← List.head?_reverse, ← List.head?_reverse, commonEnd]
  cases xs.reverse with
  | nil => simp [commonStart]
  | cons x xs =>
    cases ys.reverse with
    | nil => simp [commonStart]
    | cons y ys => by_cases h : x = y <;> simp [commonStart, h, eq_comm]

/-! ## Fits -/

namespace Fit

/-- What fits are compared by. Of paths that are alike in the other two the smaller one is best. -/
def key (f : Fit) : ℕ ×ₗ Bool ×ₗ Stringᵒᵈ :=
  toLex (f.tail, toLex (f.underRoot, OrderDual.toDual f.path))

theorem key_le_key_iff {a b : Fit} :
    a.key ≤ b.key ↔
      toLex (a.tail, a.underRoot) ≤ toLex (b.tail, b.underRoot) ∧
        (toLex (a.tail, a.underRoot) = toLex (b.tail, b.underRoot) → b.path ≤ a.path) := by
  simp only [key, Prod.Lex.toLex_le_toLex, EmbeddingLike.apply_eq_iff_eq, Prod.mk.injEq,
    OrderDual.toDual_le_toDual]
  constructor
  · rintro (hlt | ⟨heq, hlt | ⟨hroot, hpath⟩⟩)
    · exact ⟨.inl hlt, fun h => absurd h.1 hlt.ne⟩
    · exact ⟨.inr ⟨heq, hlt.le⟩, fun h => absurd h.2 hlt.ne⟩
    · exact ⟨.inr ⟨heq, hroot.le⟩, fun _ => hpath⟩
  · rintro ⟨hlt | ⟨heq, hle⟩, hpath⟩
    · exact .inl hlt
    · rcases hle.lt_or_eq with hlt | hroot
      · exact .inr ⟨heq, .inl hlt⟩
      · exact .inr ⟨heq, .inr ⟨hroot, hpath ⟨heq, hroot⟩⟩⟩

theorem better_iff {a b : Fit} : a.better b = true ↔ b.key < a.key := by
  simp only [key, Prod.Lex.toLex_lt_toLex, OrderDual.toDual_lt_toDual, better]
  split
  · next hne => simp [Ne.symm hne]
  · next htail =>
    rw [not_not] at htail
    split
    · next hne =>
      simp only [htail, lt_irrefl, true_and, false_or, Ne.symm hne, false_and, or_false]
      cases ha : a.underRoot <;> cases hb : b.underRoot <;> simp_all
    · next hroot =>
      rw [not_not] at hroot
      simp only [htail, hroot, lt_irrefl, true_and, false_or, decide_eq_true_eq]

theorem key_best (a b : Fit) : (best a b).key = max a.key b.key := by
  unfold best
  split
  · next h => exact (max_eq_right (better_iff.1 h).le).symm
  · next h => exact (max_eq_left (not_lt.1 (mt better_iff.2 h))).symm

/-- The best of several fits is one of them, and no other has greater keys. -/
theorem foldl_best (fit : Fit) (rest : List Fit) :
    rest.foldl best fit ∈ fit :: rest ∧ ∀ f ∈ fit :: rest, f.key ≤ (rest.foldl best fit).key := by
  induction rest generalizing fit with
  | nil => simp
  | cons other rest ih =>
    obtain ⟨hmem, hmax⟩ := ih (best fit other)
    rw [List.foldl_cons]
    constructor
    · rcases List.mem_cons.1 hmem with heq | hrest
      · rw [heq]
        unfold best
        split <;> simp
      · exact List.mem_cons_of_mem _ (List.mem_cons_of_mem _ hrest)
    · have hbest := hmax _ List.mem_cons_self
      rw [key_best] at hbest
      intro f hf
      rcases List.mem_cons.1 hf with rfl | hf
      · exact (le_max_left _ _).trans hbest
      rcases List.mem_cons.1 hf with rfl | hf
      · exact (le_max_right _ _).trans hbest
      · exact hmax f (List.mem_cons_of_mem _ hf)

/-- The fit of a path, also if the file names differ. -/
def ofPath (root : Option String) (names : List String) (path : String) : Fit :=
  { tail := commonEnd names (Path.components path), underRoot := isUnderRoot root path, path }

theorem of?_eq_some_iff {names : List String} {f : Fit} :
    of? root names path = some f ↔
      0 < commonEnd names (Path.components path) ∧ f = ofPath root names path := by
  rw [of?, ofPath]
  split
  · next h => simp [h, eq_comm]
  · next h => simp [h]

end Fit

/-! ## The best path -/

/-- How well a path fits a request: by the common end, then by lying under the root. -/
def rank (root : Option String) (requested path : String) : ℕ ×ₗ Bool :=
  toLex (commonEnd (Path.components requested) (Path.components path), isUnderRoot root path)

/-- Whether two paths lead to files of the same name. -/
def SameFileName (a b : String) : Prop :=
  ∃ name, (Path.components a).getLast? = some name ∧ (Path.components b).getLast? = some name

/-- No path of a list fits better, and none that fits as well is smaller. -/
structure IsBest (root : Option String) (candidates : List String) (requested path : String) :
    Prop where
  mem : path ∈ candidates
  rank_le : ∀ other ∈ candidates, rank root requested other ≤ rank root requested path
  le_of_rank_eq : ∀ other ∈ candidates,
    rank root requested other = rank root requested path → path ≤ other

theorem IsBest.unique {path' : String} (h : IsBest root candidates requested path)
    (h' : IsBest root candidates requested path') : path = path' := by
  have hrank := le_antisymm (h'.rank_le _ h.mem) (h.rank_le _ h'.mem)
  exact le_antisymm (h.le_of_rank_eq _ h'.mem hrank.symm) (h'.le_of_rank_eq _ h.mem hrank)

theorem bestMatch_eq_none_iff :
    bestMatch root candidates requested = none ↔
      ∀ path ∈ candidates, ¬ SameFileName requested path := by
  have hnone : bestMatch root candidates requested = none ↔
      candidates.filterMap (Fit.of? root (Path.components requested)) = [] := by
    unfold bestMatch
    split <;> simp_all
  rw [hnone, List.filterMap_eq_nil_iff]
  refine forall₂_congr fun path _ => ?_
  rw [SameFileName, ← commonEnd_pos_iff, Option.eq_none_iff_forall_ne_some]
  simp only [ne_eq, Fit.of?_eq_some_iff, not_and]
  exact ⟨fun h hpos => h _ hpos rfl, fun h f hpos => absurd hpos h⟩

theorem isBest_of_bestMatch (h : bestMatch root candidates requested = some path) :
    SameFileName requested path ∧ IsBest root candidates requested path := by
  unfold bestMatch at h
  split at h
  · exact nomatch h
  · next fit rest hfits =>
    have hfit {f : Fit} : f ∈ fit :: rest ↔ ∃ other ∈ candidates,
        0 < commonEnd (Path.components requested) (Path.components other) ∧
          f = .ofPath root (Path.components requested) other := by
      rw [← hfits, List.mem_filterMap]
      simp only [Fit.of?_eq_some_iff]
    obtain ⟨hmem, hmax⟩ := Fit.foldl_best fit rest
    obtain ⟨best, hbest, hpos, heq⟩ := hfit.1 hmem
    rw [heq] at h hmax
    obtain rfl : best = path := Option.some.inj h
    refine ⟨commonEnd_pos_iff.1 hpos, hbest, fun other hother => ?_, fun other hother hrank => ?_⟩
    · by_cases hname : 0 < commonEnd (Path.components requested) (Path.components other)
      · exact (Fit.key_le_key_iff.1 (hmax _ (hfit.2 ⟨other, hother, hname, rfl⟩))).1
      · exact (Prod.Lex.toLex_lt_toLex.2 (.inl ((Nat.not_lt.1 hname).trans_lt hpos))).le
    · have htail : commonEnd (Path.components requested) (Path.components other) =
          commonEnd (Path.components requested) (Path.components best) :=
        congrArg (fun r => (ofLex r).1) hrank
      have hname : 0 < commonEnd (Path.components requested) (Path.components other) := by
        rwa [htail]
      exact (Fit.key_le_key_iff.1 (hmax _ (hfit.2 ⟨other, hother, hname, rfl⟩))).2 hrank

theorem bestMatch_eq_some_iff :
    bestMatch root candidates requested = some path ↔
      SameFileName requested path ∧ IsBest root candidates requested path := by
  refine ⟨isBest_of_bestMatch, fun ⟨hname, hbest⟩ => ?_⟩
  cases hfound : bestMatch root candidates requested with
  | none => exact absurd hname (bestMatch_eq_none_iff.1 hfound path hbest.mem)
  | some other => rw [(isBest_of_bestMatch hfound).2.unique hbest]

/-- A request for the same parts, among the same paths. -/
theorem IsBest.congr {candidates' : List String} {requested' : String}
    (hmem : ∀ path, path ∈ candidates' ↔ path ∈ candidates)
    (hparts : Path.components requested' = Path.components requested) :
    IsBest root candidates' requested' path ↔ IsBest root candidates requested path := by
  have hrank : rank root requested' = rank root requested := by
    funext path
    rw [rank, rank, hparts]
  constructor
  · rintro ⟨h, hle, hleast⟩
    simp only [hmem, hrank] at h hle hleast
    exact ⟨h, hle, hleast⟩
  · rintro ⟨h, hle, hleast⟩
    simp only [← hmem, ← hrank] at h hle hleast
    exact ⟨h, hle, hleast⟩

/-- A path is found just if one has the file name that is asked for. It fits best by its common end
with the request and by lying under the root, and is the smallest of those that fit as well; so it
depends on the set of paths and on the parts of the request alone. -/
theorem bestMatch_optimal (root : Option String) (candidates : List String) (requested : String) :
    (∀ path, IsGreatest {n | ∃ names, names <:+ Path.components requested ∧
        names <:+ Path.components path ∧ names.length = n}
      (commonEnd (Path.components requested) (Path.components path))) ∧
    (bestMatch root candidates requested = none ↔
      ∀ path ∈ candidates, ¬ SameFileName requested path) ∧
    (∀ path, bestMatch root candidates requested = some path →
      IsBest root candidates requested path) ∧
    ∀ (candidates' : List String) (requested' : String),
      (∀ path, path ∈ candidates' ↔ path ∈ candidates) →
      Path.components requested' = Path.components requested →
      bestMatch root candidates' requested' = bestMatch root candidates requested := by
  refine ⟨fun path => isGreatest_commonEnd _ _, bestMatch_eq_none_iff,
    fun path h => (isBest_of_bestMatch h).2, fun candidates' requested' hmem hparts => ?_⟩
  refine Option.ext fun path => ?_
  rw [bestMatch_eq_some_iff, bestMatch_eq_some_iff, IsBest.congr hmem hparts, SameFileName,
    SameFileName, hparts]

/-- Of two paths under the root the smaller one is taken, in whatever order and spelling. -/
theorem bestMatch_optimal_of_tie :
    bestMatch (some "/r") ["/r/z/p/a.py", "/b/p/a.py", "/r/b/p/a.py"] "p/a.py" =
        some "/r/b/p/a.py" ∧
      bestMatch (some "/r") ["/r/b/p/a.py", "/r/z/p/a.py", "/b/p/a.py", "/r/z/p/a.py"]
        ".\\p//a.py" = some "/r/b/p/a.py" := by
  have hfound : bestMatch (some "/r") ["/r/z/p/a.py", "/b/p/a.py", "/r/b/p/a.py"] "p/a.py" =
      some "/r/b/p/a.py" := by
    decide +kernel
  refine ⟨hfound, ?_⟩
  obtain ⟨-, -, -, hsame⟩ :=
    bestMatch_optimal (some "/r") ["/r/z/p/a.py", "/b/p/a.py", "/r/b/p/a.py"] "p/a.py"
  rw [← hfound]
  refine hsame _ _ (fun path => ?_) (by decide +kernel)
  simp only [List.mem_cons, List.not_mem_nil, or_false]
  tauto

end RefactorAudit.Coverage

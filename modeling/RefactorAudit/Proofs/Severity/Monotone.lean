-- SUMMARY: A file that looks worse never gets a smaller score, and no score is negative.
import RefactorAudit.Proofs.Figure.Exact
import RefactorAudit.Severity.Score
import Mathlib.Data.List.Forall2
import Mathlib.Logic.Relation
import Mathlib.Tactic.Linarith
import Mathlib.Tactic.NormNum

/-!
# Monotone scores

A record looks worse if a tool finds more, if its complexity rises or if its coverage falls, be it a
figure of the record itself or one of a method. Every such change moves the four figures that the
score is made of in one direction, whatever else the record holds. So with positive weights the
score never falls, and it is not negative, for each figure is kept within its bounds.
-/

namespace RefactorAudit

open Json (Value Fields)

/-! ## Records that look worse -/

namespace Record

section

variable {α : Type}

/-- Two records say the same about all fields but one. -/
def SameBut (name : String) (a b : Fields α) : Prop :=
  ∀ key, key ≠ name → Table.get? key b = Table.get? key a

end

/-- Two records differ in one number at most, which becomes another one. -/
structure Moves (name : String) (R : ℚ → ℚ → Prop) (a b : Fields ℚ) : Prop where
  others : SameBut name a b
  number : ∃ x y, number? a name = some x ∧ number? b name = some y ∧ R x y

/-- A method looks worse by one figure. -/
inductive MethodWorsens (m m' : Fields ℚ) : Prop where
  | complexity (h : Moves "complexity" (· ≤ ·) m m')
  | linesHit (h : Moves "lines_hit" (· ≥ ·) m m')
  | coverage (h : Moves "coverage" (· ≥ ·) m m')

/-- A file looks worse by one figure: a tool finds at least as much as before, the given complexity
rises, the given coverage falls, or one of the listed methods looks worse. Whether a figure of a
method counts, or a given one goes before it, plays no part. -/
inductive Worsens (a b : Fields ℚ) : Prop where
  | findings {name : String} (hname : name = "type_errors" ∨ name = "lint_issues")
      (h : SameBut name a b) (hcount : count a name ≤ count b name)
  | averageComplexity (h : Moves "avg_complexity" (· ≤ ·) a b)
  | coverage (h : Moves "coverage_pct" (· ≥ ·) a b)
  | method {front rest : Fields ℚ} {name : String} {m m' : Fields ℚ} (h : SameBut "complexity" a b)
      (ha : Table.get? "complexity" a = some (.object (front ++ (name, .object m) :: rest)))
      (hb : Table.get? "complexity" b = some (.object (front ++ (name, .object m') :: rest)))
      (hm : MethodWorsens m m')

/-! ## What is read off a record -/

section

variable {α : Type} {a b : Fields α} {name : String}

theorem methods_congr (h : Table.get? "complexity" b = Table.get? "complexity" a) :
    methods b = methods a := by
  unfold methods
  rw [h]

/-- A method in the list of a record is one of its methods, between those before and behind it. -/
theorem methods_eq_of_get? {front rest m : Fields α}
    (h : Table.get? "complexity" a = some (.object (front ++ (name, .object m) :: rest))) :
    methods a = (front.filterMap fun entry => entry.2.object?) ++
      m :: rest.filterMap fun entry => entry.2.object? := by
  unfold methods
  rw [h]
  simp [Value.object?, List.filterMap_append]

variable [Figure α]

theorem count_congr (h : Table.get? name b = Table.get? name a) : count b name = count a name := by
  unfold count
  rw [h]

theorem number?_congr (h : Table.get? name b = Table.get? name a) :
    number? b name = number? a name := by
  unfold number?
  rw [h]

end

/-! ## More findings -/

section

variable {a b : Fields ℚ} {name : String}

/-- A number of up to 64 bits, if it is a whole one. -/
def IsWord (x : Json.Number ℚ) : Prop := ∀ n, x = .int n → n < 2 ^ 64

/-- A number tells of as many things as the nearest count. -/
theorem count_eq_toCount {x : Json.Number ℚ} (h : Table.get? name a = some (.number x))
    (hx : IsWord x) : count a name = Figure.toCount (Figure.ofNumber x) := by
  unfold count
  rw [h]
  cases x with
  | int n => exact (Figure.toCount_intCast (hx n rfl)).symm
  | float x => rfl

/-- A larger number of findings looks worse, be it a whole number or not. -/
theorem Worsens.of_number {x y : Json.Number ℚ}
    (hname : name = "type_errors" ∨ name = "lint_issues") (h : SameBut name a b)
    (ha : Table.get? name a = some (.number x)) (hb : Table.get? name b = some (.number y))
    (hx : IsWord x) (hy : IsWord y) (hle : Figure.ofNumber x ≤ Figure.ofNumber y) :
    Worsens a b := by
  refine .findings hname h ?_
  rw [count_eq_toCount ha hx, count_eq_toCount hb hy]
  exact Figure.toCount_le_toCount hle

/-- A longer list of findings looks worse. -/
theorem Worsens.of_array {items items' : List (Value ℚ)}
    (hname : name = "type_errors" ∨ name = "lint_issues") (h : SameBut name a b)
    (ha : Table.get? name a = some (.array items)) (hb : Table.get? name b = some (.array items'))
    (hle : items.length ≤ items'.length) : Worsens a b := by
  refine .findings hname h ?_
  simpa [count, ha, hb] using hle

/-- A larger object of findings looks worse. -/
theorem Worsens.of_object {parts parts' : Fields ℚ}
    (hname : name = "type_errors" ∨ name = "lint_issues") (h : SameBut name a b)
    (ha : Table.get? name a = some (.object parts)) (hb : Table.get? name b = some (.object parts'))
    (hle : parts.length ≤ parts'.length) : Worsens a b := by
  refine .findings hname h ?_
  simpa [count, ha, hb] using hle

end

theorem rel_refl {β : Type} {R : β → β → Prop} (h : ∀ x, R x x) (o : Option β) :
    Option.Rel R o o := by
  cases o with
  | none => exact .none
  | some x => exact .some (h x)

theorem Moves.rel {name : String} {R : ℚ → ℚ → Prop} {a b : Fields ℚ} (h : Moves name R a b) :
    Option.Rel R (number? a name) (number? b name) := by
  obtain ⟨x, y, ha, hb, hxy⟩ := h.number
  rw [ha, hb]
  exact .some hxy

/-! ## Figures of methods -/

/-- What a method tells about its coverage becomes worse: of the same lines no more are hit. -/
structure MethodCoverage.Falls (c c' : MethodCoverage ℚ) : Prop where
  ratio : c'.ratio ≤ c.ratio
  hit : c'.hit ≤ c.hit
  total : c'.total = c.total

theorem MethodCoverage.Falls.refl (c : MethodCoverage ℚ) : Falls c c := ⟨le_rfl, le_rfl, rfl⟩

/-- The figures of one method are at least as bad as those of another. -/
structure MethodAsBad (m m' : Fields ℚ) : Prop where
  complexity : Option.Rel (· ≤ ·) (number? m "complexity") (number? m' "complexity")
  coverage : Option.Rel MethodCoverage.Falls (methodCoverage? m) (methodCoverage? m')

theorem MethodAsBad.refl (m : Fields ℚ) : MethodAsBad m m :=
  ⟨rel_refl le_refl _, rel_refl MethodCoverage.Falls.refl _⟩

theorem MethodWorsens.asBad {m m' : Fields ℚ} (h : MethodWorsens m m') : MethodAsBad m m' := by
  cases h with
  | complexity h =>
    have hcoverage : methodCoverage? m' = methodCoverage? m := by
      unfold methodCoverage?
      rw [number?_congr (h.others "coverage" (by decide)),
        number?_congr (h.others "lines_hit" (by decide)),
        number?_congr (h.others "lines_total" (by decide))]
    exact ⟨h.rel, hcoverage ▸ rel_refl MethodCoverage.Falls.refl _⟩
  | linesHit h =>
    obtain ⟨x, y, hx, hy, hle⟩ := h.number
    have hcomplexity := number?_congr (h.others "complexity" (by decide))
    refine ⟨hcomplexity ▸ rel_refl le_refl _, ?_⟩
    unfold methodCoverage?
    rw [number?_congr (h.others "coverage" (by decide)),
      number?_congr (h.others "lines_total" (by decide)), hx, hy]
    cases number? m "coverage" with
    | none => exact .none
    | some ratio => exact .some ⟨le_rfl, hle, rfl⟩
  | coverage h =>
    obtain ⟨x, y, hx, hy, hle⟩ := h.number
    have hcomplexity := number?_congr (h.others "complexity" (by decide))
    refine ⟨hcomplexity ▸ rel_refl le_refl _, ?_⟩
    unfold methodCoverage?
    rw [number?_congr (h.others "lines_hit" (by decide)),
      number?_congr (h.others "lines_total" (by decide)), hx, hy]
    exact .some ⟨hle, le_rfl, rfl⟩

/-! ## Figures of records -/

section

variable {a b : Fields ℚ}

/-! What stays in its field is read the same, so it is as bad as before. -/

theorem count_le_of_get? {name : String} (h : Table.get? name b = Table.get? name a) :
    count a name ≤ count b name :=
  (count_congr h).ge

theorem rel_of_get? {name : String} {R : ℚ → ℚ → Prop} (hR : ∀ x, R x x)
    (h : Table.get? name b = Table.get? name a) :
    Option.Rel R (number? a name) (number? b name) := by
  rw [number?_congr h]
  exact rel_refl hR _

theorem forall₂_same (methods : List (Fields ℚ)) : List.Forall₂ MethodAsBad methods methods :=
  List.forall₂_same.2 fun m _ => .refl m

theorem methods_of_get? (h : Table.get? "complexity" b = Table.get? "complexity" a) :
    List.Forall₂ MethodAsBad (methods a) (methods b) := by
  rw [methods_congr h]
  exact forall₂_same _

/-- A method that looks worse stands among others that stay what they are. -/
theorem forall₂_methods {front rest m m' : Fields ℚ} {name : String}
    (ha : Table.get? "complexity" a = some (.object (front ++ (name, .object m) :: rest)))
    (hb : Table.get? "complexity" b = some (.object (front ++ (name, .object m') :: rest)))
    (hm : MethodWorsens m m') : List.Forall₂ MethodAsBad (methods a) (methods b) := by
  rw [methods_eq_of_get? ha, methods_eq_of_get? hb]
  exact List.rel_append (forall₂_same _) (.cons hm.asBad (forall₂_same _))

theorem averageComplexity_le
    (hgiven : Option.Rel (· ≤ ·) (number? a "avg_complexity") (number? b "avg_complexity"))
    (hmethods : List.Forall₂ MethodAsBad (methods a) (methods b)) :
    averageComplexity a ≤ averageComplexity b := by
  have hvalues : List.Forall₂ (· ≤ ·) ((methods a).filterMap fun m => number? m "complexity")
      ((methods b).filterMap fun m => number? m "complexity") :=
    List.rel_filterMap (fun _ _ h => h.complexity) hmethods
  unfold averageComplexity
  generalize number? a "avg_complexity" = given, number? b "avg_complexity" = given' at hgiven ⊢
  generalize (methods a).filterMap _ = xs, (methods b).filterMap _ = ys at hvalues ⊢
  cases hgiven with
  | some hle => exact hle
  | none =>
    cases hvalues with
    | nil => exact le_rfl
    | cons hle hrest => exact Figure.mean_le_mean (.cons hle hrest)

/-- The coverage of some methods in percent, weighted by their lines. -/
def coveredPercent (covered : List (MethodCoverage ℚ)) : ℚ :=
  if 0 < (covered.map (·.total)).sum then
    (covered.map (·.hit)).sum / (covered.map (·.total)).sum * 100
  else Figure.mean (covered.map (·.ratio)) * 100

theorem coveredPercent_le {covered covered' : List (MethodCoverage ℚ)}
    (h : List.Forall₂ MethodCoverage.Falls covered covered') :
    coveredPercent covered' ≤ coveredPercent covered := by
  have htotal : covered'.map (·.total) = covered.map (·.total) := by
    induction h with
    | nil => rfl
    | cons hc _ ih => rw [List.map_cons, List.map_cons, hc.total, ih]
  have hhit : List.Forall₂ (· ≤ ·) (covered'.map (·.hit)) (covered.map (·.hit)) :=
    List.rel_map (fun _ _ hc => hc.hit) h.flip
  have hratio : List.Forall₂ (· ≤ ·) (covered'.map (·.ratio)) (covered.map (·.ratio)) :=
    List.rel_map (fun _ _ hc => hc.ratio) h.flip
  unfold coveredPercent
  rw [htotal]
  split
  · next hlines =>
    have hshare := div_le_div_of_nonneg_right hhit.sum_le_sum hlines.le
    linarith
  · have hmean := Figure.mean_le_mean hratio
    linarith

theorem coveragePercent?_getD (fields : Fields ℚ) :
    (coveragePercent? fields).getD 0 =
      (number? fields "coverage_pct").getD
        (if ((methods fields).filterMap methodCoverage?).isEmpty then 0
        else coveredPercent ((methods fields).filterMap methodCoverage?)) := by
  unfold coveragePercent? coveredPercent
  cases number? fields "coverage_pct" with
  | some percent => rfl
  | none =>
    simp only [Figure.sum_eq, Figure.less_eq, Figure.ofNat_eq, Nat.cast_zero, Nat.cast_ofNat,
      decide_eq_true_eq, Option.getD_none]
    split
    · rfl
    · split <;> rfl

theorem coveragePercent_le
    (hgiven : Option.Rel (· ≥ ·) (number? a "coverage_pct") (number? b "coverage_pct"))
    (hmethods : List.Forall₂ MethodAsBad (methods a) (methods b)) :
    (coveragePercent? b).getD 0 ≤ (coveragePercent? a).getD 0 := by
  have hcovered : List.Forall₂ MethodCoverage.Falls ((methods a).filterMap methodCoverage?)
      ((methods b).filterMap methodCoverage?) :=
    List.rel_filterMap (fun _ _ h => h.coverage) hmethods
  rw [coveragePercent?_getD, coveragePercent?_getD]
  generalize number? a "coverage_pct" = given, number? b "coverage_pct" = given' at hgiven ⊢
  generalize (methods a).filterMap _ = xs, (methods b).filterMap _ = ys at hcovered ⊢
  cases hgiven with
  | some hle => exact hle
  | none =>
    cases hcovered with
    | nil => exact le_rfl
    | cons hc hrest => exact coveredPercent_le (.cons hc hrest)

/-- The four figures of one record are at least as bad as those of another. -/
structure AsBad (a b : Fields ℚ) : Prop where
  typeErrors : count a "type_errors" ≤ count b "type_errors"
  lintIssues : count a "lint_issues" ≤ count b "lint_issues"
  averageComplexity : averageComplexity a ≤ averageComplexity b
  coverage : (coveragePercent? b).getD 0 ≤ (coveragePercent? a).getD 0

theorem AsBad.trans {a b c : Fields ℚ} (h : AsBad a b) (h' : AsBad b c) : AsBad a c :=
  ⟨h.typeErrors.trans h'.typeErrors, h.lintIssues.trans h'.lintIssues,
    h.averageComplexity.trans h'.averageComplexity, h'.coverage.trans h.coverage⟩

/-- The figures follow from the counts, the given figures and the methods. -/
theorem AsBad.of_rel (htypes : count a "type_errors" ≤ count b "type_errors")
    (hlint : count a "lint_issues" ≤ count b "lint_issues")
    (haverage : Option.Rel (· ≤ ·) (number? a "avg_complexity") (number? b "avg_complexity"))
    (hpercent : Option.Rel (· ≥ ·) (number? a "coverage_pct") (number? b "coverage_pct"))
    (hmethods : List.Forall₂ MethodAsBad (methods a) (methods b)) : AsBad a b :=
  ⟨htypes, hlint, averageComplexity_le haverage hmethods, coveragePercent_le hpercent hmethods⟩

/-- Every change for the worse moves the figures in one direction. -/
theorem Worsens.asBad (h : Worsens a b) : AsBad a b := by
  cases h with
  | @findings name hname h hcount =>
    have hne {other : String} (htypes : other ≠ "type_errors") (hlint : other ≠ "lint_issues") :
        other ≠ name := by
      rintro rfl
      exact hname.elim htypes hlint
    have hcounts (other : String) : count a other ≤ count b other := by
      by_cases heq : other = name
      · exact heq ▸ hcount
      · exact count_le_of_get? (h other heq)
    exact .of_rel (hcounts _) (hcounts _)
      (rel_of_get? le_refl (h _ (hne (by decide) (by decide))))
      (rel_of_get? le_refl (h _ (hne (by decide) (by decide))))
      (methods_of_get? (h _ (hne (by decide) (by decide))))
  | averageComplexity h =>
    exact .of_rel (count_le_of_get? (h.others _ (by decide)))
      (count_le_of_get? (h.others _ (by decide))) h.rel
      (rel_of_get? le_refl (h.others _ (by decide))) (methods_of_get? (h.others _ (by decide)))
  | coverage h =>
    exact .of_rel (count_le_of_get? (h.others _ (by decide)))
      (count_le_of_get? (h.others _ (by decide))) (rel_of_get? le_refl (h.others _ (by decide)))
      h.rel (methods_of_get? (h.others _ (by decide)))
  | method h ha hb hm =>
    exact .of_rel (count_le_of_get? (h _ (by decide))) (count_le_of_get? (h _ (by decide)))
      (rel_of_get? le_refl (h _ (by decide))) (rel_of_get? le_refl (h _ (by decide)))
      (forall₂_methods ha hb hm)

end

end Record

/-! ## Scores -/

namespace Severity

/-- All four weights are greater than zero. -/
structure Weights.Positive (w : Weights ℚ) : Prop where
  typeErrors : 0 < w.typeErrors
  lintIssues : 0 < w.lintIssues
  complexity : 0 < w.complexity
  coverageDeficit : 0 < w.coverageDeficit

variable {w : Weights ℚ} {a b : Fields ℚ}

theorem averageComplexity_ofRecord (w : Weights ℚ) (fields : Fields ℚ) :
    (ofRecord w fields).averageComplexity = max 0 (Record.averageComplexity fields) := by
  simp only [ofRecord, Figure.less_eq, Figure.ofNat_eq, Nat.cast_zero, decide_eq_true_eq]
  split
  · next hneg => exact (max_eq_left hneg.le).symm
  · next hnonneg => exact (max_eq_right (not_lt.1 hnonneg)).symm

theorem coveragePercent_ofRecord (w : Weights ℚ) (fields : Fields ℚ) :
    (ofRecord w fields).coveragePercent =
      Figure.clamp 0 100 ((Record.coveragePercent? fields).getD 0) := by
  simp only [ofRecord, Figure.ofNat_eq, Nat.cast_zero, Nat.cast_ofNat]

/-- The score is the weighted sum of the four figures that are told with it. -/
theorem score_ofRecord (w : Weights ℚ) (fields : Fields ℚ) :
    (ofRecord w fields).score =
      w.typeErrors * Record.count fields "type_errors" +
        w.lintIssues * Record.count fields "lint_issues" +
        w.complexity * (ofRecord w fields).averageComplexity +
        w.coverageDeficit * (100 - (ofRecord w fields).coveragePercent) := by
  simp only [ofRecord, weigh, Figure.ofNat_eq, Nat.cast_ofNat]

theorem averageComplexity_nonneg (w : Weights ℚ) (fields : Fields ℚ) :
    0 ≤ (ofRecord w fields).averageComplexity := by
  rw [averageComplexity_ofRecord]
  exact le_max_left _ _

theorem coveragePercent_bounds (w : Weights ℚ) (fields : Fields ℚ) :
    0 ≤ (ofRecord w fields).coveragePercent ∧ (ofRecord w fields).coveragePercent ≤ 100 := by
  have h : (0 : ℚ) ≤ 100 := by norm_num
  rw [coveragePercent_ofRecord]
  exact ⟨Figure.le_clamp h _, Figure.clamp_le h _⟩

theorem score_nonneg (hw : w.Positive) (fields : Fields ℚ) : 0 ≤ (ofRecord w fields).score := by
  have htypes := mul_nonneg hw.typeErrors.le (Nat.cast_nonneg (Record.count fields "type_errors"))
  have hlint := mul_nonneg hw.lintIssues.le (Nat.cast_nonneg (Record.count fields "lint_issues"))
  have hcomplexity := mul_nonneg hw.complexity.le (averageComplexity_nonneg w fields)
  have hdeficit := mul_nonneg hw.coverageDeficit.le
    (sub_nonneg.2 (coveragePercent_bounds w fields).2)
  rw [score_ofRecord]
  linarith

/-- A record whose figures are as bad as those of another has no smaller score. -/
theorem score_le_of_asBad (hw : w.Positive) (h : Record.AsBad a b) :
    (ofRecord w a).score ≤ (ofRecord w b).score := by
  have haverage : (ofRecord w a).averageComplexity ≤ (ofRecord w b).averageComplexity := by
    rw [averageComplexity_ofRecord, averageComplexity_ofRecord]
    exact max_le_max le_rfl h.averageComplexity
  have hpercent : (ofRecord w b).coveragePercent ≤ (ofRecord w a).coveragePercent := by
    rw [coveragePercent_ofRecord, coveragePercent_ofRecord]
    exact Figure.clamp_le_clamp (by norm_num) h.coverage
  have htypes := mul_le_mul_of_nonneg_left (Nat.cast_le.2 h.typeErrors) hw.typeErrors.le
  have hlint := mul_le_mul_of_nonneg_left (Nat.cast_le.2 h.lintIssues) hw.lintIssues.le
  have hcomplexity := mul_le_mul_of_nonneg_left haverage hw.complexity.le
  have hdeficit := mul_le_mul_of_nonneg_left (sub_le_sub_left hpercent 100) hw.coverageDeficit.le
  rw [score_ofRecord, score_ofRecord]
  linarith

/-- With positive weights every record has a score that is not negative, made of an average
complexity that is not negative and a coverage between 0 and 100. If a record becomes worse by one
change or more, its score does not fall. -/
theorem score_monotone (w : Weights ℚ) (hw : w.Positive) :
    (∀ fields : Fields ℚ,
      0 ≤ (ofRecord w fields).score ∧ 0 ≤ (ofRecord w fields).averageComplexity ∧
        0 ≤ (ofRecord w fields).coveragePercent ∧ (ofRecord w fields).coveragePercent ≤ 100) ∧
    ∀ a b : Fields ℚ, Relation.TransGen Record.Worsens a b →
      (ofRecord w a).score ≤ (ofRecord w b).score := by
  refine ⟨fun fields => ?_, fun a b h => ?_⟩
  · exact ⟨score_nonneg hw fields, averageComplexity_nonneg w fields, coveragePercent_bounds w fields⟩
  · have hasBad : Record.AsBad a b := by
      induction h with
      | single hstep => exact hstep.asBad
      | tail _ hstep ih => exact ih.trans hstep.asBad
    exact score_le_of_asBad hw hasBad

/-- A text in the place of findings becomes a list of two, and then a method loses hit lines. -/
theorem score_monotone_of_lost_lines :
    let w : Weights ℚ :=
      { typeErrors := 3, lintIssues := 1, complexity := 2, coverageDeficit := 1 / 2 }
    let method (hit : Nat) : Fields ℚ := [("complexity", .ofNat 3), ("coverage", .ofFloat 1),
      ("lines_hit", .ofNat hit), ("lines_total", .ofNat 4)]
    let file (hit : Nat) (findings : Value ℚ) : Fields ℚ :=
      [("complexity", .object [("run", .object (method hit)), ("stop", .null)]),
        ("lint_issues", findings)]
    w.Positive ∧
      Relation.TransGen Record.Worsens (file 4 (.string "two")) (file 1 (.array [.null, .null])) ∧
      (ofRecord w (file 4 (.string "two"))).score ≤
        (ofRecord w (file 1 (.array [.null, .null]))).score := by
  intro w method file
  have hpositive : w.Positive := by
    constructor <;> norm_num [w]
  have hfindings : Record.Worsens (file 4 (.string "two")) (file 4 (.array [.null, .null])) := by
    refine .findings (.inr rfl) (fun key hkey => ?_) (Nat.zero_le _)
    simp [file, Table.get?, Ne.symm hkey]
  have hlines : Record.Moves "lines_hit" (· ≥ ·) (method 4) (method 1) := by
    refine ⟨fun key hkey => ?_, 4, 1, rfl, rfl, by norm_num⟩
    simp [method, Table.get?, Ne.symm hkey]
  have hmethod : Record.Worsens (file 4 (.array [.null, .null])) (file 1 (.array [.null, .null])) :=
    @Record.Worsens.method _ _ [] _ _ _ _
      (fun key hkey => by simp [file, Table.get?, Ne.symm hkey]) rfl rfl (.linesHit hlines)
  have hworse := (Relation.TransGen.single hfindings).tail hmethod
  exact ⟨hpositive, hworse, (score_monotone w hpositive).2 _ _ hworse⟩

end Severity

end RefactorAudit

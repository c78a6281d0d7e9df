-- SUMMARY: The coverage that methods get from a report fits their lines.
import RefactorAudit.Coverage.Attribution
import RefactorAudit.Proofs.Coverage.Consistency
import RefactorAudit.Proofs.Figure.Methods
import Mathlib.Data.List.Nodup
import Mathlib.Data.List.Perm.Subperm
import Mathlib.Tactic.NormNum

/-!
# Attribution

A method counts the lines of its file that lie between its first and its last line. As every line
that was hit is executable, a method has no more hit lines than lines, and no more lines than there
are numbers in its range. So its ratio is a share, and so is the coverage of all methods together.
-/

namespace RefactorAudit

/-! ## The lines of a range -/

namespace FileCoverage

variable {α : Type} {c : FileCoverage α}

/-- Ascending numbers within bounds are not more than the numbers there are. -/
theorem countP_le_of_sorted {lines : List Nat} (h : Ascending.Sorted lines) (first last : Nat) :
    lines.countP (fun line => first ≤ line && line ≤ last) ≤ last + 1 - first := by
  rw [List.countP_eq_length_filter]
  have hnodup : (lines.filter fun line => first ≤ line && line ≤ last).Nodup :=
    (h.imp Nat.ne_of_lt).filter _
  have hsubset : (lines.filter fun line => first ≤ line && line ≤ last) ⊆
      List.range' first (last + 1 - first) := by
    intro line hline
    obtain ⟨-, hwithin⟩ := List.mem_filter.1 hline
    simp only [Bool.and_eq_true, decide_eq_true_eq] at hwithin
    rw [List.mem_range'_1]
    omega
  simpa using (List.subperm_of_subset hnodup hsubset).length_le

theorem Consistent.countsIn_le (h : c.Consistent) (first last : Nat) :
    (c.countsIn first last).1 ≤ (c.countsIn first last).2 := by
  simp only [countsIn, List.countP_eq_length_filter]
  have hnodup := (h.hit.imp Nat.ne_of_lt).filter fun line => first ≤ line && line ≤ last
  exact (List.subperm_of_subset hnodup (List.filter_subset _ h.hit_subset)).length_le

theorem Ordered.countsIn_le_range (h : c.Ordered) (first last : Nat) :
    (c.countsIn first last).2 ≤ if first ≤ last then last - first + 1 else 0 := by
  have hbound := countP_le_of_sorted h.executable first last
  rw [countsIn]
  split
  · omega
  · omega

end FileCoverage

/-! ## Ratios -/

theorem CoverageSummary.ratio_nonneg (s : CoverageSummary ℚ) : 0 ≤ s.ratio := by
  simp only [ratio, Figure.ofNat_eq, Nat.cast_zero, Nat.cast_one]
  split
  · exact Figure.le_clamp zero_le_one _
  · split
    · exact Figure.le_clamp zero_le_one _
    · exact le_refl 0

theorem CoverageSummary.ratio_le_one (s : CoverageSummary ℚ) : s.ratio ≤ 1 := by
  simp only [ratio, Figure.ofNat_eq, Nat.cast_zero, Nat.cast_one]
  split
  · exact Figure.clamp_le zero_le_one _
  · split
    · exact Figure.clamp_le zero_le_one _
    · exact zero_le_one

/-! ## Methods -/

namespace Method

variable {α : Type}

/-- The same method, whatever its coverage. -/
structure Same (before after : Method α) : Prop where
  name : after.name = before.name
  startLine : after.startLine = before.startLine
  endLine : after.endLine = before.endLine
  complexity : after.complexity = before.complexity

/-- A method whose coverage was told. Its counts fit each other and its lines. -/
structure Attributed (before after : Method α) : Prop extends Same before after where
  covered : after.coverage.isSome
  hit_le : after.linesHit ≤ after.linesTotal
  total_le : after.linesTotal ≤
    if before.startLine ≤ before.endLine then before.endLine - before.startLine + 1 else 0

section

variable [Figure α] {file : Option (FileCoverage α)} {m n : Method α}

/-- The method with the coverage of its file, if there is any. -/
def coveredBy (file : Option (FileCoverage α)) (m : Method α) : Method α :=
  match file with
  | some c => m.covered c
  | none => m.uncovered

theorem same_coveredBy (file : Option (FileCoverage α)) (m : Method α) :
    Same m (m.coveredBy file) := by
  cases file with
  | none => exact ⟨rfl, rfl, rfl, rfl⟩
  | some c =>
    unfold coveredBy covered
    dsimp only
    split
    · exact ⟨rfl, rfl, rfl, rfl⟩
    · exact ⟨rfl, rfl, rfl, rfl⟩

/-- What a method knew about its coverage does not matter. -/
theorem Same.coveredBy_eq (h : Same m n) (file : Option (FileCoverage α)) :
    n.coveredBy file = m.coveredBy file := by
  obtain ⟨hname, hstart, hend, hcomplexity⟩ := h
  unfold coveredBy covered uncovered
  rw [hname, hstart, hend, hcomplexity]

theorem attributed_coveredBy (h : ∀ c, file = some c → c.Consistent) (m : Method α) :
    Attributed m (m.coveredBy file) := by
  have hsame := same_coveredBy file m
  cases file with
  | none => exact { hsame with covered := rfl, hit_le := Nat.le_refl 0, total_le := Nat.zero_le _ }
  | some c =>
    have hc := h c rfl
    unfold coveredBy covered at hsame ⊢
    dsimp only at hsame ⊢
    split at hsame
    · next hlines =>
      rw [if_pos hlines]
      exact { hsame with
        covered := rfl, hit_le := hc.countsIn_le _ _, total_le := hc.countsIn_le_range _ _ }
    · next hlines =>
      rw [if_neg hlines]
      exact { hsame with covered := rfl, hit_le := Nat.le_refl 0, total_le := Nat.zero_le _ }

end

/-- In exact arithmetic the ratio of a method is the share of its lines that were hit. -/
theorem exists_measured_coveredBy {file : Option (FileCoverage ℚ)}
    (h : ∀ c, file = some c → c.Consistent) (m : Method ℚ) :
    ∃ ratio, (m.coveredBy file).Measured ratio := by
  cases file with
  | none => exact ⟨0, rfl, le_refl 0, zero_le_one, fun hpos => absurd hpos (Nat.lt_irrefl 0)⟩
  | some c =>
    have hle := (h c rfl).countsIn_le m.startLine m.endLine
    unfold coveredBy covered
    simp only [Figure.ofNat_eq, Nat.cast_zero]
    split
    · refine ⟨_, rfl, ?_, ?_, fun hpos => if_pos hpos⟩
      · split
        · positivity
        · exact le_refl 0
      · split
        · exact div_le_one_of_le₀ (Nat.cast_le.2 hle) (Nat.cast_nonneg _)
        · exact zero_le_one
    · refine ⟨_, rfl, ?_, ?_, fun hpos => absurd hpos (Nat.lt_irrefl 0)⟩
      · cases c.summary with
        | none => exact le_refl 0
        | some summary => exact summary.ratio_nonneg
      · cases c.summary with
        | none => exact zero_le_one
        | some summary => exact summary.ratio_le_one

end Method

/-! ## Snapshots -/

namespace Snapshot

open Coverage (Format Index)

variable {α : Type}

/-- A snapshot whose coverage was told, method by method. -/
structure Attributed (before after : Snapshot α) : Prop where
  path : after.path = before.path
  methods : List.Forall₂ Method.Attributed before.methods after.methods

/-- All methods have a share of their lines, and so have they together. -/
structure Measured (s : Snapshot ℚ) : Prop where
  methods : ∀ m ∈ s.methods, ∃ ratio, m.Measured ratio
  percent : s.methods ≠ [] → ∃ percent, Methods.coveragePercent s.methods = some percent ∧
    0 ≤ percent ∧ percent ≤ 100 ∧
    (0 < Methods.total (·.linesTotal) s.methods →
      percent = 100 * Methods.total (·.linesHit) s.methods / Methods.total (·.linesTotal) s.methods)

section

variable [Figure α]

theorem annotate_eq (s : Snapshot α) (i : Index α) :
    s.annotate i =
      s.withMethods (s.methods.map (Method.coveredBy ((i.find? s.path).map (·.2)))) := by
  unfold annotate
  cases i.find? s.path with
  | none => rfl
  | some entry => rfl

theorem attributed_annotate {i : Index α} (h : i.Consistent) (s : Snapshot α) :
    Attributed s (s.annotate i) := by
  rw [annotate_eq]
  refine ⟨rfl, List.forall₂_map_right_iff.2 (List.forall₂_same.2 fun m _ => ?_)⟩
  exact m.attributed_coveredBy fun _ => h.find?

theorem annotate_annotate (s : Snapshot α) (i j : Index α) :
    (s.annotate i).annotate j = s.annotate j := by
  rw [annotate_eq (s.annotate i), annotate_eq s i, annotate_eq s j]
  unfold withMethods new
  dsimp only
  rw [List.map_map]
  have hlast (first last : Option (FileCoverage α)) :
      Method.coveredBy last ∘ Method.coveredBy first = Method.coveredBy last :=
    funext fun m => (m.same_coveredBy first).coveredBy_eq last
  rw [hlast]

end

theorem measured_annotate {i : Index ℚ} (h : i.Consistent) (s : Snapshot ℚ) :
    Measured (s.annotate i) := by
  have hmethods : ∀ m ∈ (s.annotate i).methods, ∃ ratio, m.Measured ratio := by
    intro m hm
    rw [annotate_eq] at hm
    obtain ⟨before, -, rfl⟩ := List.mem_map.1 hm
    exact before.exists_measured_coveredBy fun _ => h.find?
  have hlines : ∀ m ∈ (s.annotate i).methods, m.linesHit ≤ m.linesTotal := by
    intro m hm
    rw [annotate_eq] at hm
    obtain ⟨before, -, rfl⟩ := List.mem_map.1 hm
    exact (before.attributed_coveredBy fun _ => h.find?).hit_le
  exact ⟨hmethods, fun hne => Methods.exists_coveragePercent hne hmethods hlines⟩

/-- However the lines of a file are recorded, the hit ones are executable. So whatever index a text
is read as, the methods of a snapshot keep all but their coverage, their counts fit, and in exact
arithmetic their ratios and their coverage together are the shares of their lines. A later
attribution replaces an earlier one. -/
theorem annotate_consistent :
    (∀ (summary : Option CoverageSummary) (records : List (Nat × Nat)),
      (FileCoverage.recordAll records { summary }).Consistent) ∧
    (∀ (format : Format) (origin text : String) (i : Index),
      Index.ofText format origin text = .ok i → ∀ root : Option String,
        (i.withRepoRoot root).Consistent ∧
        (∀ s : Snapshot, Attributed s (s.annotate (i.withRepoRoot root))) ∧
        ∀ (exact : Float → ℚ) (s : Snapshot ℚ),
          Attributed s (s.annotate ((i.withRepoRoot root).mapFigures exact)) ∧
          Measured (s.annotate ((i.withRepoRoot root).mapFigures exact))) ∧
    ∀ {α : Type} [Figure α] (s : Snapshot α) (i j : Index α),
      (s.annotate i).annotate j = s.annotate j := by
  refine ⟨fun summary records => (FileCoverage.consistent_start summary).recordAll records,
    ?_, fun s i j => annotate_annotate s i j⟩
  intro format origin text i hread root
  have hconsistent := (Index.consistent_ofText hread).withRepoRoot root
  refine ⟨hconsistent, attributed_annotate hconsistent, fun exact s => ?_⟩
  have hexact := hconsistent.mapFigures exact
  exact ⟨attributed_annotate hexact s, measured_annotate hexact s⟩

/-- A line that is recorded twice counts once, and it stays hit. -/
theorem annotate_consistent_of_repeated_line :
    let i : Index :=
      { files := [("pkg/a.py", { hit := [2, 9], executable := [2, 3, 9] })]
        repoRoot := none, format := some .lcov }
    let s : Snapshot ℚ := new "/repo/pkg/a.py"
      [{ name := "run", startLine := 1, endLine := 5, complexity := 2 },
        { name := "stop", startLine := 7, endLine := 6, complexity := 1 }]
    Index.ofText .lcov "cov.info" "SF:pkg/a.py\nDA:2,1\nDA:3,0\nDA:2,0\nDA:9,4\nend_of_record\n" =
        .ok i ∧
      Methods.coveragePercent (s.annotate (i.mapFigures fun _ => 0)).methods = some 50 := by
  intro i s
  have hread : Index.ofText .lcov "cov.info"
      "SF:pkg/a.py\nDA:2,1\nDA:3,0\nDA:2,0\nDA:9,4\nend_of_record\n" = .ok i := rfl
  obtain ⟨-, -, hexact⟩ := annotate_consistent.2.1 _ _ _ i hread none
  have hmeasured : Measured (s.annotate (i.mapFigures fun _ => 0)) := (hexact (fun _ => 0) s).2
  have hhits : (s.annotate (i.mapFigures fun _ => 0)).methods.map (·.linesHit) = [1, 0] := by
    simp only [i, s]
    rfl
  have hlines : (s.annotate (i.mapFigures fun _ => 0)).methods.map (·.linesTotal) = [2, 0] := by
    simp only [i, s]
    rfl
  have hne : (s.annotate (i.mapFigures fun _ => 0)).methods ≠ [] := by
    intro hnil
    rw [hnil] at hhits
    exact nomatch hhits
  obtain ⟨percent, hpercent, -, -, hshare⟩ := hmeasured.percent hne
  rw [Methods.total_eq, Methods.total_eq, hhits, hlines] at hshare
  have hfifty : percent = 50 := by
    rw [hshare (by decide)]
    norm_num
  exact ⟨hread, hfifty ▸ hpercent⟩

end Snapshot

end RefactorAudit

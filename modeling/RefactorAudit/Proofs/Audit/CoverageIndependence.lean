-- SUMMARY: What the audit of a file finds does not depend on its coverage.
import RefactorAudit.Audit.Findings
import RefactorAudit.Proofs.Coverage.Attribution

/-!
# Independence of coverage

Coverage is handed to the methods of a snapshot before the audit looks at them. It changes the ratio
and the counts of a method and nothing else, and what an audit finds is made of names and
complexities. So two audits of a file that differ in the coverage only have the same findings.
-/

namespace RefactorAudit

variable {α : Type}

/-! ## Methods -/

theorem Method.Same.symm {m n : Method α} (h : Same m n) : Same n m :=
  ⟨h.name.symm, h.startLine.symm, h.endLine.symm, h.complexity.symm⟩

theorem Method.Same.trans {m n o : Method α} (h : Same m n) (h' : Same n o) : Same m o :=
  ⟨h'.name.trans h.name, h'.startLine.trans h.startLine, h'.endLine.trans h.endLine,
    h'.complexity.trans h.complexity⟩

namespace Methods

/-- The same methods in the same order, whatever their coverage. -/
abbrev Same (a b : List (Method α)) : Prop := List.Forall₂ Method.Same a b

variable {a b : List (Method α)}

/-- What is read off names, lines and complexities is the same. -/
theorem Same.map_eq {β : Type} {f : Method α → β} (h : Same a b)
    (hf : ∀ m n, Method.Same m n → f n = f m) : b.map f = a.map f := by
  induction h with
  | nil => rfl
  | cons hm _ ih => rw [List.map_cons, List.map_cons, hf _ _ hm, ih]

theorem Same.names_eq (h : Same a b) : b.map (·.name) = a.map (·.name) :=
  h.map_eq fun _ _ hm => hm.name

theorem Same.complexities_eq (h : Same a b) : b.map (·.complexity) = a.map (·.complexity) :=
  h.map_eq fun _ _ hm => hm.complexity

/-- The methods above a threshold are the same. -/
theorem Same.filter_complexity (h : Same a b) (threshold : Nat) :
    Same (a.filter fun m => threshold < m.complexity)
      (b.filter fun m => threshold < m.complexity) := by
  refine List.rel_filter (fun m n hm => ?_) h
  simp only [hm.complexity]

theorem Same.collisions_eq (h : Same a b) : collisions b = collisions a := by
  unfold collisions
  rw [h.names_eq]

theorem Same.moduleComplexity_eq (h : Same a b) : moduleComplexity b = moduleComplexity a := by
  unfold moduleComplexity
  rw [total_eq, total_eq, h.complexities_eq]

theorem Same.averageComplexity_eq [Figure α] (h : Same a b) :
    (averageComplexity b : α) = averageComplexity a := by
  have hempty : b.isEmpty = a.isEmpty := by
    rw [← List.isEmpty_map (f := (·.name)), h.names_eq, List.isEmpty_map]
  unfold averageComplexity
  rw [hempty, h.map_eq fun _ _ hm => by rw [hm.complexity]]

end Methods

/-! ## Snapshots -/

namespace Snapshot

/-- The same methods of the same file, and the same collisions. -/
structure Same (a b : Snapshot α) : Prop where
  path : b.path = a.path
  methods : Methods.Same a.methods b.methods
  collisions : b.collisions = a.collisions

variable [Figure α]

/-- The snapshot with its coverage, if coverage is known. -/
def attributed (coverage : Option (Coverage.Index α)) (s : Snapshot α) : Snapshot α :=
  match coverage with
  | some index => s.annotate index
  | none => s

/-- Attribution changes each method in a way that leaves it the same. -/
theorem exists_attributed_eq (coverage : Option (Coverage.Index α)) (path : String)
    (methods : List (Method α)) :
    ∃ f : Method α → Method α, (∀ m, Method.Same m (f m)) ∧
      attributed coverage (new path methods) = new path (methods.map f) := by
  cases coverage with
  | none => exact ⟨id, fun _ => ⟨rfl, rfl, rfl, rfl⟩, by rw [List.map_id, attributed]⟩
  | some index => exact ⟨_, Method.same_coveredBy _, annotate_eq _ _⟩

theorem same_attributed (i j : Option (Coverage.Index α)) (path : String)
    (methods : List (Method α)) :
    Same (attributed i (new path methods)) (attributed j (new path methods)) := by
  obtain ⟨f, hf, hi⟩ := exists_attributed_eq i path methods
  obtain ⟨g, hg, hj⟩ := exists_attributed_eq j path methods
  have hmethods : Methods.Same (methods.map f) (methods.map g) := by
    rw [Methods.Same, List.forall₂_map_left_iff, List.forall₂_map_right_iff, List.forall₂_same]
    exact fun m _ => (hf m).symm.trans (hg m)
  rw [hi, hj]
  exact ⟨rfl, hmethods, hmethods.collisions_eq⟩

end Snapshot

/-! ## Findings -/

namespace Audit

variable {a b : Snapshot α}

theorem complexMethods_eq (h : Methods.Same a.methods b.methods) (threshold : Nat) :
    complexMethods b threshold = complexMethods a threshold := by
  unfold complexMethods
  rw [(h.filter_complexity threshold).names_eq]

theorem missingTests_eq (h : Methods.Same a.methods b.methods) (diff : Option Diff)
    (corpus : Corpus) (privateMark : String) :
    missingTests b diff corpus privateMark = missingTests a diff corpus privateMark := by
  unfold missingTests
  rw [h.names_eq]

variable [Figure α]

/-- Entries that differ in the coverage of their methods at most. -/
structure Entry.SameFindings (a b : Entry α) : Prop where
  diff : b.diff = a.diff
  missingTests : b.missingTests = a.missingTests
  complexMethods : b.complexMethods = a.complexMethods
  collisions : b.collisions = a.collisions
  fault : b.fault = a.fault
  moduleComplexity : Methods.moduleComplexity b.methods = Methods.moduleComplexity a.methods
  averageComplexity :
    (Methods.averageComplexity b.methods : α) = Methods.averageComplexity a.methods
  methods : Methods.Same a.methods b.methods

/-- The findings are read off the snapshot with its coverage, but for the comparison with the
original. -/
theorem analyze_eq (original : Option (Snapshot α)) (s : Snapshot α)
    (coverage : Option (Coverage.Index α)) (tests : Option Corpus) (options : Options) :
    analyze original s coverage tests options =
      { methods := (s.attributed coverage).methods
        diff := original.map fun before => Diff.between before s
        missingTests := (tests.map fun corpus =>
          missingTests (s.attributed coverage) (original.map fun before => Diff.between before s)
            corpus options.privateMark).getD []
        complexMethods := complexMethods (s.attributed coverage) options.threshold
        collisions := (s.attributed coverage).collisions } := by
  cases coverage <;> cases tests <;> rfl

/-- Coverage never changes what an audit finds. Whatever coverage a snapshot of some methods is
audited with, or without any, the entries differ in the ratios and counts of the methods at most. -/
theorem analyze_ignores_coverage (original : Option (Snapshot α)) (path : String)
    (methods : List (Method α)) (tests : Option Corpus) (options : Options)
    (i j : Option (Coverage.Index α)) :
    (analyze original (.new path methods) i tests options).SameFindings
      (analyze original (.new path methods) j tests options) := by
  have hsame := Snapshot.same_attributed i j path methods
  rw [analyze_eq, analyze_eq]
  refine
    { diff := rfl
      missingTests := ?_
      complexMethods := complexMethods_eq hsame.methods _
      collisions := hsame.collisions
      fault := rfl
      moduleComplexity := hsame.methods.moduleComplexity_eq
      averageComplexity := hsame.methods.averageComplexity_eq
      methods := hsame.methods }
  cases tests with
  | none => rfl
  | some corpus => exact missingTests_eq hsame.methods _ corpus _

end Audit

end RefactorAudit

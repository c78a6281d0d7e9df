-- SUMMARY: Which names an audit lists as untested or complex, and in which order.
import RefactorAudit.Proofs.Audit.CoverageIndependence
import RefactorAudit.Proofs.Audit.Difference
import RefactorAudit.Proofs.Audit.MissingTests

/-!
# Exact findings

Both lists of names that an audit makes are filters over a list in which every name is kept where it
stands first. So each list is told by the names in it and by their order: that of the file, and that
of the bytes for names that the file has no more. Further tests take names off the list of the
untested. A higher threshold takes names off the list of the complex, and may change the order of the
others, as it is another method of the name that is the first one above it.
-/

namespace RefactorAudit

open Text (AscendByBytes ascendByBytes_iff)

/-! ## Public names -/

/-- The own name, behind the last dot, does not begin with the mark of private names, if there is a
mark. -/
def Names.IsPublic (mark name : String) : Prop :=
  mark = "" ∨ ∃ own, IsOwn own name ∧ ¬ mark.toList <+: own.toList

theorem Names.isPrivate_eq_false_iff {mark name : String} :
    isPrivate mark name = false ↔ IsPublic mark name := by
  simp only [IsPublic, isOwn_iff, exists_eq_left]
  by_cases hmark : mark = ""
  · simp [isPrivate, hmark]
  · simp [isPrivate, simple, hmark, ← Bool.not_eq_true]

/-! ## Corpora that grow -/

namespace Corpus

variable {c : Corpus} {name : String}

theorem references_add (source : String) (h : c.references name = true) :
    (c.add source).references name = true := by
  simp only [references, add, Bool.or_eq_true, contains_foldl_insert] at h ⊢
  exact h.imp .inr .inr

/-- What is referenced stays so, whatever tests are added. -/
theorem references_foldl_add (sources : List String) (h : c.references name = true) :
    (sources.foldl add c).references name = true := by
  induction sources generalizing c with
  | nil => exact h
  | cons source rest ih => exact ih (references_add source h)

end Corpus

/-! ## First places -/

namespace Audit

variable {β : Type} {xs : List String} {n : String}

theorem nodup_firsts (xs : List String) : (firsts xs).Nodup := by
  induction xs with
  | nil => exact .nil
  | cons x rest ih => exact List.nodup_cons.2 ⟨by simp, ih.filter _⟩

theorem firsts_filter (p : String → Bool) (xs : List String) :
    firsts (xs.filter p) = (firsts xs).filter p := by
  induction xs with
  | nil => rfl
  | cons x rest ih =>
    cases hx : p x with
    | true => simp [firsts, hx, ih, Bool.and_comm]
    | false =>
      simp only [firsts, List.filter_cons, hx, ih, List.filter_filter, Bool.false_eq_true, if_false]
      apply List.filter_congr
      intro y _
      by_cases hy : y = x <;> simp [hy, hx]

theorem firsts_append (xs ys : List String) :
    firsts (xs ++ ys) = firsts xs ++ (firsts ys).filter (· ∉ xs) := by
  induction xs with
  | nil => simp [firsts]
  | cons x rest ih =>
    simp only [List.cons_append, firsts, ih, List.filter_append, List.filter_filter]
    congr 3
    funext y
    simp

theorem firsts_of_nodup (h : xs.Nodup) : firsts xs = xs := by
  induction xs with
  | nil => rfl
  | cons x rest ih =>
    obtain ⟨hx, hrest⟩ := List.nodup_cons.1 h
    simp only [firsts, ih hrest, List.cons.injEq, true_and, List.filter_eq_self]
    intro y hy
    simpa using fun heq : y = x => hx (heq ▸ hy)

/-- The names of the elements with a property are in the order of the first such elements. -/
theorem pairwise_firsts (p : β → Bool) (f : β → String) (xs : List β) :
    (firsts ((xs.filter p).map f)).Pairwise fun a b =>
      xs.findIdx (fun x => p x && f x = a) < xs.findIdx (fun x => p x && f x = b) := by
  induction xs with
  | nil => exact .nil
  | cons x rest ih =>
    cases hx : p x with
    | false => simpa [List.findIdx_cons, hx] using ih
    | true =>
      simp only [List.filter_cons, hx, if_true, List.map_cons, firsts, List.pairwise_cons,
        List.mem_filter, decide_eq_true_eq]
      constructor
      · rintro b ⟨-, hb⟩
        simp [List.findIdx_cons, hx, Ne.symm hb]
      · refine (ih.filter _).imp_of_mem fun {a b} ha hb hlt => ?_
        have hne : ∀ {c}, c ∈ (firsts ((rest.filter p).map f)).filter (· ≠ f x) → f x ≠ c := by
          intro c hc heq
          simp [heq] at hc
        simpa [List.findIdx_cons, hx, hne ha, hne hb] using hlt

end Audit

/-! ## Lists of names -/

section Lists

variable {α : Type} {original : Option (Snapshot α)} {s : Snapshot α} {corpus : Corpus}
variable {mark : String}

/-- Where the first method of a name stands among those with a property. -/
def Snapshot.firstPlace (s : Snapshot α) (p : Method α → Bool) (name : String) : Nat :=
  s.methods.findIdx fun m => p m && m.name = name

namespace Audit

/-- The list has the public names without a test, be they in the file or only in its original: the
former in the order of the file, then the others in the order of bytes. -/
structure ListsUntested (original : Option (Snapshot α)) (s : Snapshot α) (corpus : Corpus)
    (mark : String) (listed : List String) : Prop where
  nodup : listed.Nodup
  mem_iff : ∀ n, n ∈ listed ↔ Names.IsPublic mark n ∧ corpus.references n = false ∧
    (n ∈ s.nameSet ∨ ∃ before, original = some before ∧ n ∈ before.nameSet ∧ n ∉ s.nameSet)
  ordered : ∃ current removed, listed = current ++ removed ∧
    (∀ n ∈ current, n ∈ s.nameSet) ∧ (∀ n ∈ removed, n ∉ s.nameSet) ∧
    (current.Pairwise fun a b => s.firstPlace (fun _ => true) a < s.firstPlace (fun _ => true) b) ∧
    AscendByBytes removed

/-- The list has the names of the methods above the threshold, in the order of the first such
methods. -/
structure ListsComplex (s : Snapshot α) (threshold : Nat) (listed : List String) : Prop where
  nodup : listed.Nodup
  mem_iff : ∀ n, n ∈ listed ↔ ∃ m ∈ s.methods, m.name = n ∧ threshold < m.complexity
  ordered : listed.Pairwise fun a b => s.firstPlace (fun m => threshold < m.complexity) a <
    s.firstPlace (fun m => threshold < m.complexity) b

/-! ## Untested names -/

/-- A public name without a test. -/
def isUntested (corpus : Corpus) (mark name : String) : Bool :=
  !Names.isPrivate mark name && !corpus.references name

theorem isUntested_iff {name : String} : isUntested corpus mark name = true ↔
    Names.IsPublic mark name ∧ corpus.references name = false := by
  simp [isUntested, Names.isPrivate_eq_false_iff]

/-- The names that a file has no more. -/
def lostNames (original : Option (Snapshot α)) (s : Snapshot α) : List String :=
  ((original.map fun before => Diff.between before s).map (·.missing)).getD []

theorem mem_lostNames : n ∈ lostNames original s ↔
    ∃ before, original = some before ∧ n ∈ before.nameSet ∧ n ∉ s.nameSet := by
  cases original with
  | none => simp [lostNames]
  | some before => simp [lostNames, (Diff.isPatch_between before s).mem_missing]

theorem ascend_lostNames (original : Option (Snapshot α)) (s : Snapshot α) :
    AscendByBytes (lostNames original s) := by
  cases original with
  | none => exact .nil
  | some before => exact (Diff.isPatch_between before s).missing_ascend

/-- The names of the file come before those that it has no more. -/
theorem missingTests_eq_append (original : Option (Snapshot α)) (s : Snapshot α) (corpus : Corpus)
    (mark : String) :
    missingTests s (original.map fun before => Diff.between before s) corpus mark =
      (firsts (s.methods.map (·.name))).filter (isUntested corpus mark) ++
        (lostNames original s).filter (isUntested corpus mark) := by
  have hnew : (lostNames original s).filter (· ∉ s.methods.map (·.name)) =
      lostNames original s := by
    apply List.filter_eq_self.2
    intro n hn
    obtain ⟨before, -, -, hnot⟩ := mem_lostNames.1 hn
    simpa [Snapshot.nameSet] using hnot
  calc missingTests s (original.map fun before => Diff.between before s) corpus mark
      = (firsts (s.methods.map (·.name) ++ lostNames original s)).filter
          (isUntested corpus mark) := by
        simp only [missingTests, lostNames, firsts_filter, List.filter_filter]
        exact List.filter_congr fun n _ => Bool.and_comm ..
    _ = (firsts (s.methods.map (·.name)) ++ lostNames original s).filter
          (isUntested corpus mark) := by
        rw [firsts_append, firsts_of_nodup (ascend_lostNames original s).nodup, hnew]
    _ = _ := List.filter_append ..

theorem listsUntested_missingTests (original : Option (Snapshot α)) (s : Snapshot α)
    (corpus : Corpus) (mark : String) : ListsUntested original s corpus mark
      (missingTests s (original.map fun before => Diff.between before s) corpus mark) where
  nodup := (nodup_firsts _).filter _
  mem_iff n := by
    have hnames : n ∈ s.nameSet ↔ n ∈ s.methods.map (·.name) := List.mem_toFinset
    rw [← mem_lostNames, hnames]
    simp only [missingTests_eq_append, List.mem_append, List.mem_filter, mem_firsts, isUntested_iff]
    tauto
  ordered := by
    refine ⟨_, _, missingTests_eq_append original s corpus mark, ?_, ?_, ?_, ?_⟩
    · intro n hn
      simpa [Snapshot.nameSet] using mem_firsts.1 (List.mem_filter.1 hn).1
    · intro n hn
      obtain ⟨before, -, -, hnot⟩ := mem_lostNames.1 (List.mem_filter.1 hn).1
      exact hnot
    · have hplaces := pairwise_firsts (fun _ => true) (·.name) s.methods
      rw [List.filter_true] at hplaces
      exact hplaces.filter _
    · exact (ascend_lostNames original s).filter _

/-- Tests that are added take names off the list and change nothing else. -/
theorem missingTests_sublist (s : Snapshot α) (diff : Option Diff) (corpus : Corpus) (mark : String)
    (sources : List String) :
    (missingTests s diff (sources.foldl Corpus.add corpus) mark).Sublist
      (missingTests s diff corpus mark) := by
  apply List.monotone_filter_right
  intro n hn
  simp only [Bool.not_eq_true', ← Bool.not_eq_true] at hn ⊢
  exact fun h => hn (Corpus.references_foldl_add sources h)

/-! ## Complex methods -/

theorem mem_complexMethods {threshold : Nat} : n ∈ complexMethods s threshold ↔
    ∃ m ∈ s.methods, m.name = n ∧ threshold < m.complexity := by
  simp only [complexMethods, mem_firsts, List.mem_map, List.mem_filter, decide_eq_true_eq]
  constructor
  · rintro ⟨m, ⟨hm, hlt⟩, hn⟩
    exact ⟨m, hm, hn, hlt⟩
  · rintro ⟨m, hm, hn, hlt⟩
    exact ⟨m, ⟨hm, hlt⟩, hn⟩

theorem listsComplex_complexMethods (s : Snapshot α) (threshold : Nat) :
    ListsComplex s threshold (complexMethods s threshold) where
  nodup := nodup_firsts _
  mem_iff _ := mem_complexMethods
  ordered := pairwise_firsts _ _ _

theorem complexMethods_subset {threshold higher : Nat} (h : threshold ≤ higher) :
    complexMethods s higher ⊆ complexMethods s threshold := by
  intro n hn
  obtain ⟨m, hm, hname, hlt⟩ := mem_complexMethods.1 hn
  exact mem_complexMethods.2 ⟨m, hm, hname, Nat.lt_of_le_of_lt h hlt⟩

/-! ## Audits -/

variable [Figure α]

theorem same_methods_attributed (coverage : Option (Coverage.Index α)) (s : Snapshot α) :
    Methods.Same s.methods (s.attributed coverage).methods := by
  cases coverage with
  | none => exact List.forall₂_same.2 fun m _ => ⟨rfl, rfl, rfl, rfl⟩
  | some index =>
    rw [Snapshot.attributed, Snapshot.annotate_eq]
    apply List.forall₂_map_right_iff.2
    exact List.forall₂_same.2 fun m _ => m.same_coveredBy _

/-- Whatever the coverage, the findings of an audit are those of the snapshot. -/
theorem findings_analyze (original : Option (Snapshot α)) (s : Snapshot α)
    (coverage : Option (Coverage.Index α)) (corpus : Corpus) (options : Options) :
    (analyze original s coverage (some corpus) options).missingTests =
        missingTests s (original.map fun before => Diff.between before s) corpus
          options.privateMark ∧
      (analyze original s coverage (some corpus) options).complexMethods =
        complexMethods s options.threshold := by
  have hsame := same_methods_attributed coverage s
  rw [analyze_eq]
  exact ⟨missingTests_eq hsame _ _ _, complexMethods_eq hsame _⟩

/-- An audit lists exactly the public names without a test and exactly the names above the
threshold, each once and in its order. More tests leave a part of the former list, in its order; a
higher threshold leaves some names of the latter. -/
theorem analyze_findings_exact (original : Option (Snapshot α)) (s : Snapshot α)
    (coverage : Option (Coverage.Index α)) (corpus : Corpus) (options : Options) :
    ListsUntested original s corpus options.privateMark
      (analyze original s coverage (some corpus) options).missingTests ∧
    (∀ sources : List String,
      (analyze original s coverage (some (sources.foldl Corpus.add corpus))
        options).missingTests.Sublist
        (analyze original s coverage (some corpus) options).missingTests) ∧
    ListsComplex s options.threshold
      (analyze original s coverage (some corpus) options).complexMethods ∧
    ∀ higher ≥ options.threshold,
      (analyze original s coverage (some corpus)
        { options with threshold := higher }).complexMethods ⊆
      (analyze original s coverage (some corpus) options).complexMethods := by
  simp only [(findings_analyze original s coverage _ _).1,
    (findings_analyze original s coverage _ _).2]
  refine ⟨listsUntested_missingTests original s corpus _, fun sources => ?_,
    listsComplex_complexMethods s _, fun higher h => complexMethods_subset h⟩
  exact missingTests_sublist s _ corpus _ sources

end Audit

end Lists

end RefactorAudit

-- SUMMARY: Which complexity a summary shows beside a flagged name.
import RefactorAudit.Audit.Summary
import RefactorAudit.Proofs.Audit.Findings

/-!
# Shown complexities

A name is flagged if any method of that name is above the threshold, but the summary shows the
complexity of the first method of the name. It is the complexity of a method of that name in any
case. It is above the threshold for all flagged names just if no name is flagged because of a later
method alone, so always if each method has a name of its own.
-/

namespace RefactorAudit.Audit

/-! ## First methods -/

section Methods

variable {α : Type} {methods : List (Method α)} {name : String} {m first : Method α}

/-- The first method of a name. -/
def IsFirst (methods : List (Method α)) (name : String) (m : Method α) : Prop :=
  ∃ before after, methods = before ++ m :: after ∧ m.name = name ∧
    ∀ other ∈ before, other.name ≠ name

theorem find?_eq_some_iff : methods.find? (fun m => m.name = name) = some m ↔
    IsFirst methods name m := by
  simp only [List.find?_eq_some_iff_append, IsFirst, decide_eq_true_eq, Bool.not_eq_true',
    decide_eq_false_iff_not]
  constructor
  · rintro ⟨hname, before, after, hmethods, hbefore⟩
    exact ⟨before, after, hmethods, hname, hbefore⟩
  · rintro ⟨before, after, hmethods, hname, hbefore⟩
    exact ⟨hname, before, after, hmethods, hbefore⟩

theorem exists_isFirst (h : m ∈ methods) : ∃ first, IsFirst methods m.name first := by
  have hsome : (methods.find? fun other => other.name = m.name).isSome :=
    List.find?_isSome.2 ⟨m, h, decide_eq_true rfl⟩
  obtain ⟨first, hfirst⟩ := Option.isSome_iff_exists.1 hsome
  exact ⟨first, find?_eq_some_iff.1 hfirst⟩

theorem IsFirst.mem (h : IsFirst methods name m) : m ∈ methods := by
  obtain ⟨before, after, rfl, -, -⟩ := h
  simp

theorem IsFirst.name_eq (h : IsFirst methods name m) : m.name = name := by
  obtain ⟨-, -, -, hname, -⟩ := h
  exact hname

/-- A name has at most one first method. -/
theorem IsFirst.unique (h : IsFirst methods name m) (hfirst : IsFirst methods name first) :
    m = first :=
  Option.some.inj ((find?_eq_some_iff.2 h).symm.trans (find?_eq_some_iff.2 hfirst))

/-- Where a method is above the threshold, the first method of its name is so too. -/
def FirstsExceed (methods : List (Method α)) (threshold : Nat) : Prop :=
  ∀ m ∈ methods, threshold < m.complexity →
    ∀ first, IsFirst methods m.name first → threshold < first.complexity

theorem firstsExceed_of_nodup (h : (methods.map (·.name)).Nodup) (threshold : Nat) :
    FirstsExceed methods threshold := by
  intro m hm hlt first hfirst
  have heq : first = m := List.inj_on_of_nodup_map h hfirst.mem hm hfirst.name_eq
  exact heq ▸ hlt

end Methods

/-! ## Summaries -/

section Entries

variable {α : Type} {e : Entry α} {threshold : Nat}

/-- The flagged names with the complexities that the summary shows. -/
def Entry.flagged (e : Entry α) : List (String × Nat) :=
  e.complexMethods.map fun name =>
    (name, ((e.methods.find? fun m => m.name = name).map (·.complexity)).getD 0)

/-- The entry flags the names of the methods above a threshold. -/
def Entry.Flags (e : Entry α) (threshold : Nat) : Prop :=
  ∀ name, name ∈ e.complexMethods ↔ ∃ m ∈ e.methods, m.name = name ∧ threshold < m.complexity

/-- Each flagged name is shown with the complexity of its first method. -/
theorem Entry.Flags.mem_flagged_iff (h : e.Flags threshold) {item : String × Nat} :
    item ∈ e.flagged ↔ (∃ m ∈ e.methods, m.name = item.1 ∧ threshold < m.complexity) ∧
      ∃ first, IsFirst e.methods item.1 first ∧ first.complexity = item.2 := by
  obtain ⟨name, complexity⟩ := item
  simp only [Entry.flagged, List.mem_map, Prod.mk.injEq]
  constructor
  · rintro ⟨name, hname, rfl, rfl⟩
    obtain ⟨m, hm, rfl, hlt⟩ := (h name).1 hname
    obtain ⟨first, hfirst⟩ := exists_isFirst hm
    refine ⟨⟨m, hm, rfl, hlt⟩, first, hfirst, ?_⟩
    simp [find?_eq_some_iff.2 hfirst]
  · rintro ⟨hflagged, first, hfirst, rfl⟩
    refine ⟨name, (h name).2 hflagged, rfl, ?_⟩
    simp [find?_eq_some_iff.2 hfirst]

/-- All shown complexities are above the threshold just if no name is flagged because of a later
method alone. -/
theorem Entry.Flags.exceed_iff (h : e.Flags threshold) :
    (∀ item ∈ e.flagged, threshold < item.2) ↔ FirstsExceed e.methods threshold := by
  constructor
  · intro hall m hm hlt first hfirst
    apply hall (m.name, first.complexity)
    exact h.mem_flagged_iff.2 ⟨⟨m, hm, rfl, hlt⟩, first, hfirst, rfl⟩
  · intro hfirsts item hitem
    obtain ⟨⟨m, hm, hname, hlt⟩, first, hfirst, hcomplexity⟩ := h.mem_flagged_iff.1 hitem
    exact hcomplexity ▸ hfirsts m hm hlt first (hname ▸ hfirst)

theorem flags_analyze [Figure α] (original : Option (Snapshot α)) (s : Snapshot α)
    (coverage : Option (Coverage.Index α)) (tests : Option Corpus) (options : Options) :
    (analyze original s coverage tests options).Flags options.threshold := by
  rw [analyze_eq]
  exact fun name => mem_complexMethods

end Entries

/-- The text of an item: a name and its complexity in brackets. -/
def itemText (item : String × Nat) : String := s!"{item.1} ({item.2})"

theorem map_itemText_flagged (e : Entry) :
    e.flagged.map itemText = e.complexMethods.map (withComplexity e.methods) := by
  rw [Entry.flagged, List.map_map]
  rfl

/-- If they are asked for, the flagged names stand in a line of their own. -/
theorem exists_lines_eq (e : Entry) (path : String) (sections : Sections) (styled : Bool) :
    ∃ before after, e.lines path sections styled = before ++
      labelled styled .yellow "high complexity"
        (if sections.keeps "complexity_warnings" then e.flagged.map itemText else []) ++ after := by
  rw [map_itemText_flagged]
  exact ⟨_, _, List.append_assoc _ _ _⟩

/-- The summary of an audit shows each flagged name with the complexity of the first method of that
name. This is above the threshold for all of them just if no name is flagged because of a later
method alone, and always if each method has a name of its own. -/
theorem shown_complexity_exceeds_iff (original : Option Snapshot) (s : Snapshot)
    (coverage : Option Coverage.Index) (tests : Option Corpus) (options : Options) :
    let e := analyze original s coverage tests options
    (∀ path sections styled, ∃ before after, e.lines path sections styled = before ++
      labelled styled .yellow "high complexity"
        (if sections.keeps "complexity_warnings" then e.flagged.map itemText else []) ++ after) ∧
    (∀ item, item ∈ e.flagged ↔
      (∃ m ∈ e.methods, m.name = item.1 ∧ options.threshold < m.complexity) ∧
        ∃ first, IsFirst e.methods item.1 first ∧ first.complexity = item.2) ∧
    ((∀ item ∈ e.flagged, options.threshold < item.2) ↔
      FirstsExceed e.methods options.threshold) ∧
    ((e.methods.map (·.name)).Nodup → ∀ item ∈ e.flagged, options.threshold < item.2) := by
  intro e
  have hflags : e.Flags options.threshold := flags_analyze original s coverage tests options
  refine ⟨exists_lines_eq e, fun item => hflags.mem_flagged_iff, hflags.exceed_iff, fun hnodup => ?_⟩
  exact hflags.exceed_iff.2 (firstsExceed_of_nodup hnodup options.threshold)

/-- Of two methods of one name the later one is above the threshold, and the complexity of the
earlier one is shown. -/
theorem shown_complexity_le_of_later_method :
    let s := Snapshot.new "mod.py" [Method.found "run" 2 3 1, Method.found "run" 5 11 4]
    let e := analyze none s none none { threshold := 3 }
    e.flagged = [("run", 1)] ∧ "  high complexity: run (1)" ∈ e.lines "mod.py" {} false ∧
      ¬ ∀ item ∈ e.flagged, 3 < item.2 := by
  decide +kernel

end RefactorAudit.Audit

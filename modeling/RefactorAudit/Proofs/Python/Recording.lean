-- SUMMARY: The walk records exactly the outermost functions, in the order of the source.
import RefactorAudit.Proofs.Collection.Selection
import RefactorAudit.Proofs.Python.Occurrences
import RefactorAudit.Python.Extract

/-!
# Recording

The walk carries the names of the classes around it and goes on with them from tree to tree. What it
adds in a tree can be told node by node: a function is recorded if the way to it passes no other
function and enters classes and decorated definitions by the one child that counts there.
-/

namespace RefactorAudit.Python.SyntaxTree

variable {α : Type}

/-- The number of the first child that fills a field. -/
def fieldNumber? (t : SyntaxTree) (field : String) : Option Nat :=
  t.children.findIdx? fun c => c.data.field == some field

theorem exists_of_fieldNumber? {t : SyntaxTree} {field : String} {i : Nat}
    (h : t.fieldNumber? field = some i) :
    ∃ c, t.children[i]? = some c ∧ t.child? field = some c := by
  obtain ⟨hi, hfield, hfirst⟩ := List.findIdx?_eq_some_iff_getElem.1 h
  refine ⟨t.children[i], List.getElem?_eq_getElem hi, ?_⟩
  exact List.find?_eq_some_iff_getElem.2 ⟨hfield, i, hi, rfl, by simpa using hfirst⟩

theorem exists_of_child? {t c : SyntaxTree} {field : String} (h : t.child? field = some c) :
    ∃ i, t.children[i]? = some c ∧ t.fieldNumber? field = some i := by
  obtain ⟨hfield, i, hi, rfl, hfirst⟩ := List.find?_eq_some_iff_getElem.1 h
  exact ⟨i, List.getElem?_eq_getElem hi,
    List.findIdx?_eq_some_iff_getElem.2 ⟨hi, hfield, by simpa using hfirst⟩⟩

/-! ## What the walk finds at a node -/

/-- The names of the classes that the walk enters on a way, if it goes that way. From a class it goes
on among the children of the body. -/
def classesOn : List Step → Option (List String)
  | [] => some []
  | s :: way =>
    match s.parent.role with
    | .function => none
    | .classBody =>
      match s.parent.name?, way with
      | some name, _ :: way =>
        if s.parent.fieldNumber? "body" = some s.child then (classesOn way).map (name :: ·)
        else none
      | _, _ => none
    | .decorated =>
      if s.parent.fieldNumber? "definition" = some s.child then classesOn way else none
    | .other => classesOn way

section

variable {t : SyntaxTree} {i : Nat} {way : List Step}

theorem classesOn_function (h : t.role = .function) : classesOn (⟨t, i⟩ :: way) = none := by
  rw [classesOn.eq_def]
  simp only [h]

theorem classesOn_other (h : t.role = .other) : classesOn (⟨t, i⟩ :: way) = classesOn way := by
  rw [classesOn.eq_def]
  simp only [h]

theorem classesOn_decorated (h : t.role = .decorated) :
    classesOn (⟨t, i⟩ :: way) =
      if t.fieldNumber? "definition" = some i then classesOn way else none := by
  rw [classesOn.eq_def]
  simp only [h]

theorem classesOn_class_nil (h : t.role = .classBody) : classesOn [⟨t, i⟩] = none := by
  rw [classesOn.eq_def]
  simp only [h]
  cases t.name? <;> rfl

theorem classesOn_class {s : Step} (h : t.role = .classBody) :
    classesOn (⟨t, i⟩ :: s :: way) =
      if t.fieldNumber? "body" = some i then
        t.name?.bind fun name => (classesOn way).map (name :: ·)
      else none := by
  rw [classesOn.eq_def]
  simp only [h]
  cases t.name? with
  | none => exact (ite_self none).symm
  | some name => rfl

end

namespace Occurrence

/-- The record of a node, if it is a function that the walk comes to. -/
def method? (scope : List String) (o : Occurrence) : Option (Method α) :=
  if o.node.role = .function then
    (classesOn o.way).bind fun names => methodOf (scope ++ names) o.node
  else none

/-- The record of a node below the body of a class, which is not itself looked at. -/
def methodBelow? (scope : List String) (o : Occurrence) : Option (Method α) :=
  match o.way with
  | [] => none
  | _ :: way => method? scope ⟨way, o.node⟩

section

variable {t : SyntaxTree} {scope : List String} {i : Nat} {o : Occurrence}

theorem method?_eq_none (h : classesOn o.way = none) : o.method? (α := α) scope = none := by
  rw [method?, h]
  exact ite_self none

theorem method?_after_function (h : t.role = .function) :
    (o.after [⟨t, i⟩]).method? (α := α) scope = none :=
  method?_eq_none (classesOn_function h)

theorem method?_after_other (h : t.role = .other) :
    (o.after [⟨t, i⟩]).method? (α := α) scope = o.method? scope := by
  rw [method?, method?, after_node, after_way, List.singleton_append, classesOn_other h]

theorem method?_after_decorated (h : t.role = .decorated) :
    (o.after [⟨t, i⟩]).method? (α := α) scope =
      if t.fieldNumber? "definition" = some i then o.method? scope else none := by
  rw [method?, method?, after_node, after_way, List.singleton_append, classesOn_decorated h]
  by_cases hfield : t.fieldNumber? "definition" = some i
  · rw [if_pos hfield, if_pos hfield]
  · rw [if_neg hfield, if_neg hfield]
    exact ite_self none

theorem method?_after_class (h : t.role = .classBody) :
    (o.after [⟨t, i⟩]).method? (α := α) scope =
      if t.fieldNumber? "body" = some i then
        t.name?.bind fun name => o.methodBelow? (scope ++ [name])
      else none := by
  obtain ⟨way, n⟩ := o
  cases way with
  | nil =>
    rw [method?_eq_none (classesOn_class_nil h)]
    cases t.name? <;> exact (ite_self none).symm
  | cons s way =>
    rw [method?, after_node, after_way, List.singleton_append, classesOn_class h]
    by_cases hfield : t.fieldNumber? "body" = some i
    · rw [if_pos hfield, if_pos hfield]
      cases t.name? with
      | none => exact ite_self none
      | some name =>
        simp only [Option.bind_some, methodBelow?, method?, Option.bind_map, Function.comp_def,
          List.append_assoc, List.singleton_append]
    · rw [if_neg hfield, if_neg hfield]
      exact ite_self none

end

end Occurrence

/-! ## What the walk finds in a tree -/

/-- The records of the nodes of a tree, in a scope. -/
def recordsIn (scope : List String) (t : SyntaxTree) : List (Method α) :=
  t.occurrences.filterMap (Occurrence.method? scope)

section

variable {β : Type} {parent t : SyntaxTree} {cs : List SyntaxTree} {scope : List String}

theorem filterMap_occurrencesAmong {number : Nat} {f g : Occurrence → Option β}
    (h : ∀ i o, f (o.after [⟨parent, i⟩]) = g o) :
    (occurrencesAmong parent number cs).filterMap f =
      cs.flatMap fun c => c.occurrences.filterMap g := by
  induction cs generalizing number with
  | nil => rfl
  | cons c rest ih =>
    have hfirst : f ∘ Occurrence.after [⟨parent, number⟩] = g := funext fun o => h number o
    rw [occurrencesAmong, List.filterMap_append, List.filterMap_map, ih, List.flatMap_cons, hfirst]

theorem filterMap_occurrencesAmong_eq_nil {number : Nat} {f : Occurrence → Option β}
    (h : ∀ (i : Nat) (o : Occurrence), number ≤ i → f (o.after [⟨parent, i⟩]) = none) :
    (occurrencesAmong parent number cs).filterMap f = [] := by
  rw [List.filterMap_eq_nil_iff]
  intro o ho
  obtain ⟨i, c, -, q, -, rfl⟩ := mem_occurrencesAmong.1 ho
  exact h _ q (Nat.le_add_right _ _)

/-- Only the first child that fills a field is looked at. -/
theorem filterMap_occurrencesAmong_field {number : Nat} {f g : Occurrence → Option β}
    (fills : SyntaxTree → Bool)
    (h : ∀ i o, f (o.after [⟨parent, i⟩]) =
      if (cs.findIdx? fills).map (· + number) = some i then g o else none) :
    (occurrencesAmong parent number cs).filterMap f =
      (cs.find? fills).elim [] fun c => c.occurrences.filterMap g := by
  induction cs generalizing number with
  | nil => rfl
  | cons c rest ih =>
    rw [occurrencesAmong, List.filterMap_append, List.filterMap_map]
    simp only [List.findIdx?_cons] at h
    by_cases hfills : fills c = true
    · simp only [if_pos hfills, Option.map_some, Nat.zero_add, Option.some.injEq] at h
      have hfirst : f ∘ Occurrence.after [⟨parent, number⟩] = g :=
        funext fun o => (h number o).trans (if_pos rfl)
      have hrest : (occurrencesAmong parent (number + 1) rest).filterMap f = [] :=
        filterMap_occurrencesAmong_eq_nil fun i o hi =>
          (h i o).trans (if_neg (Nat.ne_of_lt hi))
      rw [List.find?_cons_of_pos hfills, hfirst, hrest, List.append_nil]
      rfl
    · simp only [if_neg hfills, Option.map_map, Function.comp_def, Nat.add_right_comm _ 1] at h
      have hfirst : ∀ o, (f ∘ Occurrence.after [⟨parent, number⟩]) o = none := by
        intro o
        refine (h number o).trans (if_neg ?_)
        cases rest.findIdx? fills with
        | none => exact nofun
        | some j =>
          simp only [Option.map_some, Option.some.injEq]
          omega
      rw [List.find?_cons_of_neg hfills, List.filterMap_eq_nil_iff.2 fun o _ => hfirst o,
        List.nil_append]
      exact ih fun i o => h i o

theorem recordsIn_function (h : t.role = .function) :
    t.recordsIn (α := α) scope = (methodOf scope t).toList := by
  obtain ⟨d, cs⟩ := t
  rw [recordsIn, occurrences, List.filterMap_cons, filterMap_occurrencesAmong_eq_nil
    fun i o _ => Occurrence.method?_after_function h]
  simp only [Occurrence.method?, h, classesOn, if_true, Option.bind_some, List.append_nil]
  cases methodOf (α := α) scope (node d cs) <;> rfl

/-- A node that is no function has no record itself. -/
theorem recordsIn_of_ne (h : t.role ≠ .function) :
    t.recordsIn (α := α) scope =
      (occurrencesAmong t 0 t.children).filterMap (Occurrence.method? scope) := by
  obtain ⟨d, cs⟩ := t
  rw [recordsIn, occurrences, List.filterMap_cons, Occurrence.method?, if_neg h]
  rfl

theorem recordsIn_other (h : t.role = .other) :
    t.recordsIn (α := α) scope = t.children.flatMap (recordsIn scope) := by
  rw [recordsIn_of_ne (by rw [h]; decide),
    filterMap_occurrencesAmong fun i o => Occurrence.method?_after_other h]
  rfl

theorem recordsIn_decorated (h : t.role = .decorated) :
    t.recordsIn (α := α) scope = (t.child? "definition").elim [] (recordsIn scope) := by
  rw [recordsIn_of_ne (by rw [h]; decide)]
  refine filterMap_occurrencesAmong_field (fun c => c.data.field == some "definition")
    fun i o => ?_
  rw [Occurrence.method?_after_decorated h, fieldNumber?]
  simp only [Nat.add_zero, Option.map_id']

theorem recordsBelow (body : SyntaxTree) :
    body.occurrences.filterMap (Occurrence.methodBelow? (α := α) scope) =
      body.children.flatMap (recordsIn scope) := by
  obtain ⟨d, cs⟩ := body
  rw [occurrences, List.filterMap_cons]
  exact filterMap_occurrencesAmong fun i o => rfl

theorem recordsIn_class (h : t.role = .classBody) :
    t.recordsIn (α := α) scope =
      t.name?.elim [] fun name =>
        (t.child? "body").elim [] fun body =>
          body.children.flatMap (recordsIn (scope ++ [name])) := by
  rw [recordsIn_of_ne (by rw [h]; decide),
    filterMap_occurrencesAmong_field
      (g := fun o => t.name?.bind fun name => o.methodBelow? (scope ++ [name]))
      (fun c => c.data.field == some "body") fun i o => ?_]
  · cases t.name? with
    | none =>
      cases List.find? _ t.children with
      | none => rfl
      | some body => exact List.filterMap_eq_nil_iff.2 fun _ _ => rfl
    | some name =>
      simp only [Option.bind_some, Option.elim_some, recordsBelow]
      rfl
  · rw [Occurrence.method?_after_class h, fieldNumber?]
    simp only [Nat.add_zero, Option.map_id']

end

/-! ## The walk -/

namespace Walk

/-- The walk after it has found more. -/
def add (ms : List (Method α)) (w : Walk α) : Walk α := { w with found := w.found ++ ms.toArray }

@[simp] theorem scope_add (ms : List (Method α)) (w : Walk α) : (w.add ms).scope = w.scope := rfl

theorem add_nil (w : Walk α) : w.add [] = w := by
  rw [add, Array.append_empty]

theorem add_add (ms ns : List (Method α)) (w : Walk α) :
    (w.add ms).add ns = w.add (ms ++ ns) := by
  simp only [add, Array.append_assoc, List.append_toArray]

/-- What is found within a class stays when the walk leaves it. -/
theorem leave_add_enter (name : String) (ms : List (Method α)) (w : Walk α) :
    ((w.enter name).add ms).leave = w.add ms := by
  simp only [leave, add, enter, Array.pop_push]

theorem record_eq (t : SyntaxTree) (w : Walk α) :
    w.record t = w.add (methodOf w.scope.toList t).toList := by
  unfold record
  cases methodOf w.scope.toList t with
  | none => exact w.add_nil.symm
  | some m => rfl

end Walk

mutual

/-- A walk adds the records of a tree, and leaves the names of the classes as they were. -/
theorem visit_eq : ∀ (t : SyntaxTree) (w : Walk α),
    visit w t = w.add (t.recordsIn w.scope.toList)
  | node d cs, w => by
    rw [visit]
    cases hrole : (node d cs).role with
    | function => rw [recordsIn_function hrole, w.record_eq]
    | classBody =>
      rw [recordsIn_class hrole]
      cases (node d cs).name? with
      | none => exact w.add_nil.symm
      | some name =>
        have hscope : (w.enter name).scope.toList = w.scope.toList ++ [name] :=
          Array.toList_push
        dsimp only
        rw [visitBelow_eq cs "body" (w.enter name), w.leave_add_enter, hscope]
        rfl
    | decorated =>
      rw [recordsIn_decorated hrole]
      exact visitFirst_eq cs "definition" w
    | other =>
      rw [recordsIn_other hrole]
      exact visitAll_eq cs w

theorem visitAll_eq : ∀ (cs : List SyntaxTree) (w : Walk α),
    visitAll w cs = w.add (cs.flatMap (recordsIn w.scope.toList))
  | [], w => w.add_nil.symm
  | c :: rest, w => by
    rw [visitAll, visitAll_eq rest, visit_eq c, Walk.scope_add, Walk.add_add, List.flatMap_cons]

theorem visitBelow_eq : ∀ (cs : List SyntaxTree) (field : String) (w : Walk α),
    visitBelow field w cs =
      w.add ((cs.find? fun c => c.data.field == some field).elim [] fun body =>
        body.children.flatMap (recordsIn w.scope.toList))
  | [], field, w => w.add_nil.symm
  | node d cs :: rest, field, w => by
    rw [visitBelow, List.find?_cons]
    by_cases hfield : d.field = some field
    · rw [if_pos hfield, visitAll_eq cs w]
      simp only [data, hfield, beq_self_eq_true]
      rfl
    · rw [if_neg hfield, visitBelow_eq rest field w]
      simp only [data, beq_eq_false_iff_ne.2 hfield]

theorem visitFirst_eq : ∀ (cs : List SyntaxTree) (field : String) (w : Walk α),
    visitFirst field w cs =
      w.add ((cs.find? fun c => c.data.field == some field).elim [] (recordsIn w.scope.toList))
  | [], field, w => w.add_nil.symm
  | c :: rest, field, w => by
    rw [visitFirst, List.find?_cons]
    by_cases hfield : c.data.field = some field
    · rw [if_pos hfield, visit_eq c w]
      simp only [hfield, beq_self_eq_true, Option.elim_some]
    · rw [if_neg hfield, visitFirst_eq rest field w]
      simp only [beq_eq_false_iff_ne.2 hfield]

end

theorem scope_visit (t : SyntaxTree) (w : Walk α) : (visit w t).scope = w.scope := by
  rw [visit_eq, Walk.scope_add]

theorem methods_eq (t : SyntaxTree) : t.methods (α := α) = t.recordsIn [] := by
  rw [methods, visit_eq]
  exact congrArg Array.toList (Array.empty_append)

/-! ## Recorded functions -/

/-- Whether the walk comes to a function that it can record. -/
def Occurrence.IsRecorded (o : Occurrence) : Prop :=
  o.node.role = .function ∧ (classesOn o.way).isSome ∧ o.node.name?.isSome

instance (o : Occurrence) : Decidable o.IsRecorded :=
  inferInstanceAs (Decidable (_ ∧ _ ∧ _))

/-- The functions of a tree that the walk records, in pre-order. -/
def recorded (t : SyntaxTree) : List Occurrence := t.occurrences.filter fun o => o.IsRecorded

section

variable {t : SyntaxTree} {a b : List Step} {o q : Occurrence}

theorem Occurrence.method?_isSome_iff {scope : List String} :
    (o.method? (α := α) scope).isSome ↔ o.IsRecorded := by
  unfold method? IsRecorded methodOf
  split
  · next hrole => cases classesOn o.way <;> simp [hrole]
  · next hrole => simp [hrole]

theorem Occurrence.exists_methodOf {scope : List String} {m : Method α}
    (h : o.method? scope = some m) : ∃ inner, methodOf inner o.node = some m := by
  rw [method?] at h
  split at h
  · obtain ⟨names, -, hm⟩ := Option.bind_eq_some_iff.1 h
    exact ⟨_, hm⟩
  · exact nomatch h

/-- The methods of a tree are the records of its recorded functions, one for each. -/
theorem forall₂_recorded (t : SyntaxTree) :
    List.Forall₂ (fun o m => o.method? (α := α) [] = some m) t.recorded t.methods := by
  rw [methods_eq]
  refine Selection.forall₂_filterMap (fun o _ ho => ?_) fun o _ ho => ?_
  · obtain ⟨m, hm⟩ := Option.isSome_iff_exists.1 (Occurrence.method?_isSome_iff.2 ho)
    exact ⟨m, hm, hm⟩
  · rw [← Option.not_isSome_iff_eq_none, Occurrence.method?_isSome_iff]
    exact ho

theorem mem_recorded : o ∈ t.recorded ↔ o ∈ t.occurrences ∧ o.IsRecorded := by
  rw [recorded, List.mem_filter, decide_eq_true_eq]

theorem pairwise_recorded (t : SyntaxTree) :
    t.recorded.Pairwise fun o q => o.place < q.place :=
  (pairwise_occurrences t).filter _

/-- A way that the walk goes, it goes to the end. -/
theorem classesOn_append (ha : (classesOn a).isSome) (h : (classesOn (a ++ b)).isSome) :
    (classesOn b).isSome := by
  fun_induction classesOn a with
  | case1 => exact h
  | case2 => exact nomatch ha
  | case3 s hrole name body way hname hfield ih =>
    obtain ⟨t, i⟩ := s
    rw [List.cons_append, List.cons_append, classesOn_class hrole, if_pos hfield, hname] at h
    exact ih (by simpa using ha) (by simpa using h)
  | case4 => exact nomatch ha
  | case5 => exact nomatch ha
  | case6 s way hrole hfield ih =>
    obtain ⟨t, i⟩ := s
    rw [List.cons_append, classesOn_decorated hrole, if_pos hfield] at h
    exact ih ha h
  | case7 => exact nomatch ha
  | case8 s way hrole ih =>
    obtain ⟨t, i⟩ := s
    rw [List.cons_append, classesOn_other hrole] at h
    exact ih ha h

/-- No recorded function lies within another one. -/
theorem eq_of_holds (ho : o ∈ t.recorded) (hq : q ∈ t.recorded) (h : o.Holds q) : o = q := by
  obtain ⟨ho, hfunction, hclasses, -⟩ := mem_recorded.1 ho
  obtain ⟨hq, -, hclasses', -⟩ := mem_recorded.1 hq
  obtain ⟨a, m⟩ := o
  obtain ⟨b, n⟩ := q
  obtain ⟨rest, rfl, hrest⟩ :=
    (mem_occurrences_iff.1 ho).exists_append (mem_occurrences_iff.1 hq) h
  dsimp only at hrest
  cases hrest with
  | here => rw [List.append_nil]
  | step hchild hrest =>
    have hnone := classesOn_append hclasses hclasses'
    rw [classesOn_function hfunction] at hnone
    exact nomatch hnone

end

end RefactorAudit.Python.SyntaxTree

-- SUMMARY: The walk records exactly the outermost functions, under the names of the classes around them.
import RefactorAudit.Proofs.Python.Recording

/-!
# Outermost functions

In a tree as the grammar has it, the walk records each function that has no other function around it
and that lies in the bodies of the classes and in the decorated parts around it, and no other.
-/

namespace RefactorAudit.Python.SyntaxTree

variable {α : Type}

/-- What the grammar promises of definitions. -/
structure WellFormed (t : SyntaxTree) : Prop where
  named : ∀ o ∈ t.occurrences, o.node.role = .function ∨ o.node.role = .classBody →
    o.node.name?.isSome
  /-- The body of a class is a block, and not itself a definition. -/
  body : ∀ o ∈ t.occurrences, o.node.role = .classBody →
    ∀ body ∈ o.node.child? "body", body.role = .other

/-- Whether a step leads out of no function, and goes from a class into its body and from a decorated
definition into what is decorated. -/
structure Step.IsOpen (s : Step) : Prop where
  outside : s.parent.role ≠ .function
  body : s.parent.role = .classBody → s.parent.fieldNumber? "body" = some s.child
  definition : s.parent.role = .decorated → s.parent.fieldNumber? "definition" = some s.child

/-- The names of the classes on a way, the outermost first. -/
def classNames (way : List Step) : List String :=
  way.filterMap fun s => if s.parent.role = .classBody then s.parent.name? else none

namespace Occurrence

/-- A function with no function around it, on a way that is open at every step. -/
structure IsOutermost (o : Occurrence) : Prop where
  function : o.node.role = .function
  way_open : ∀ s ∈ o.way, s.IsOpen

/-- The record of a function, under its name behind those of the classes around it. -/
def RecordedAs (o : Occurrence) (m : Method α) : Prop :=
  ∃ name, o.node.name? = some name ∧
    m = Method.found (".".intercalate (classNames o.way ++ [name])) o.node.startLine
      o.node.endLine o.node.complexity

end Occurrence

instance (s : Step) : Decidable s.IsOpen :=
  decidable_of_iff
    (s.parent.role ≠ .function ∧
      (s.parent.role = .classBody → s.parent.fieldNumber? "body" = some s.child) ∧
      (s.parent.role = .decorated → s.parent.fieldNumber? "definition" = some s.child))
    ⟨fun h => ⟨h.1, h.2.1, h.2.2⟩, fun h => ⟨h.outside, h.body, h.definition⟩⟩

instance (o : Occurrence) : Decidable o.IsOutermost :=
  decidable_of_iff (o.node.role = .function ∧ ∀ s ∈ o.way, s.IsOpen)
    ⟨fun h => ⟨h.1, h.2⟩, fun h => ⟨h.function, h.way_open⟩⟩

section

variable {t n : SyntaxTree} {way : List Step} {i : Nat}

theorem WellFormed.part (h : t.WellFormed) (hway : Leads t way n) : n.WellFormed :=
  ⟨fun o ho hrole => h.named (o.after way) (hway.after_mem ho) hrole,
    fun o ho hrole => h.body (o.after way) (hway.after_mem ho) hrole⟩

theorem WellFormed.exists_name (h : t.WellFormed) (hrole : t.role = .function ∨ t.role = .classBody) :
    ∃ name, t.name? = some name :=
  Option.isSome_iff_exists.1 (h.named _ (root_mem_occurrences t) hrole)

theorem WellFormed.role_body {body : SyntaxTree} (h : t.WellFormed) (hrole : t.role = .classBody)
    (hbody : t.child? "body" = some body) : body.role = .other :=
  h.body _ (root_mem_occurrences t) hrole body hbody

/-! ## Steps -/

theorem Step.isOpen_other (h : t.role = .other) : Step.IsOpen ⟨t, i⟩ :=
  ⟨by rw [h]; decide, by rw [h]; exact nofun, by rw [h]; exact nofun⟩

theorem Step.isOpen_decorated_iff (h : t.role = .decorated) :
    Step.IsOpen ⟨t, i⟩ ↔ t.fieldNumber? "definition" = some i :=
  ⟨fun hopen => hopen.definition h,
    fun hfield => ⟨by rw [h]; decide, by rw [h]; exact nofun, fun _ => hfield⟩⟩

theorem Step.isOpen_class_iff (h : t.role = .classBody) :
    Step.IsOpen ⟨t, i⟩ ↔ t.fieldNumber? "body" = some i :=
  ⟨fun hopen => hopen.body h,
    fun hfield => ⟨by rw [h]; decide, fun _ => hfield, by rw [h]; exact nofun⟩⟩

theorem classNames_cons_of_ne (h : t.role ≠ .classBody) :
    classNames (⟨t, i⟩ :: way) = classNames way := by
  rw [classNames, List.filterMap_cons, if_neg h]
  rfl

theorem classNames_cons {name : String} (h : t.role = .classBody) (hname : t.name? = some name) :
    classNames (⟨t, i⟩ :: way) = name :: classNames way := by
  rw [classNames, List.filterMap_cons, if_pos h, hname]
  rfl

/-- The walk goes just the ways that are open at every step, under the names of all classes. -/
theorem classesOn_eq_some_iff (h : t.WellFormed) (hway : Leads t way n) (hn : n.role = .function)
    {names : List String} :
    classesOn way = some names ↔ (∀ s ∈ way, s.IsOpen) ∧ classNames way = names := by
  induction hway generalizing names with
  | here t => simp [classesOn, classNames]
  | @step t c n i way hchild rest ih =>
    have hpart : c.WellFormed := h.part (.step hchild (.here c))
    rw [List.forall_mem_cons]
    cases hrole : t.role with
    | function =>
      rw [classesOn_function hrole]
      exact iff_of_false (Option.some_ne_none names).symm fun h => h.1.1.outside hrole
    | other =>
      rw [classesOn_other hrole, ih hpart hn, classNames_cons_of_ne (by rw [hrole]; decide),
        and_iff_right (Step.isOpen_other hrole)]
    | decorated =>
      rw [classesOn_decorated hrole, Step.isOpen_decorated_iff hrole,
        classNames_cons_of_ne (by rw [hrole]; decide)]
      split
      · next hfield => rw [ih hpart hn, and_iff_right hfield]
      · next hfield =>
        exact iff_of_false (Option.some_ne_none names).symm fun h => hfield h.1.1
    | classBody =>
      obtain ⟨name, hname⟩ := h.exists_name (.inr hrole)
      rw [Step.isOpen_class_iff hrole, classNames_cons hrole hname]
      by_cases hfield : t.fieldNumber? "body" = some i
      · -- The child is the body of the class, which is no function and names no class.
        obtain ⟨body, hbody, hfirst⟩ := exists_of_fieldNumber? hfield
        obtain rfl := Option.some.inj (hchild.symm.trans hbody)
        have hother := h.role_body hrole hfirst
        cases rest with
        | here => exact absurd (hother.symm.trans hn) (by decide)
        | @step _ _ _ j inner hchild' rest' =>
          have hbelow (below : List String) : classesOn inner = some below ↔
              (∀ s ∈ ⟨c, j⟩ :: inner, s.IsOpen) ∧ classNames (⟨c, j⟩ :: inner) = below := by
            rw [← classesOn_other (i := j) hother]
            exact ih hpart hn
          rw [classesOn_class hrole, if_pos hfield, hname, and_iff_right hfield, Option.bind_some,
            Option.map_eq_some_iff]
          constructor
          · rintro ⟨below, hclasses, rfl⟩
            obtain ⟨hopen, heq⟩ := (hbelow below).1 hclasses
            exact ⟨hopen, congrArg _ heq⟩
          · rintro ⟨hopen, rfl⟩
            exact ⟨_, (hbelow _).2 ⟨hopen, rfl⟩, rfl⟩
      · have hnone : classesOn (⟨t, i⟩ :: way) = none := by
          cases way with
          | nil => exact classesOn_class_nil hrole
          | cons s way => exact (classesOn_class hrole).trans (if_neg hfield)
        rw [hnone]
        exact iff_of_false (Option.some_ne_none names).symm fun h => hfield h.1.1

/-! ## Records -/

variable {o : Occurrence}

theorem exists_recordedAs (h : t.WellFormed) (ho : o ∈ t.occurrences) (houter : o.IsOutermost) :
    ∃ m : Method α, o.method? [] = some m ∧ o.RecordedAs m := by
  have hclasses := (classesOn_eq_some_iff h (mem_occurrences_iff.1 ho) houter.function).2
    ⟨houter.way_open, rfl⟩
  obtain ⟨name, hname⟩ := Option.isSome_iff_exists.1 (h.named o ho (.inl houter.function))
  refine ⟨_, ?_, name, hname, rfl⟩
  rw [Occurrence.method?, if_pos houter.function, hclasses, Option.bind_some, methodOf, hname]
  rfl

theorem method?_eq_none_of_not_isOutermost (h : t.WellFormed) (ho : o ∈ t.occurrences)
    (houter : ¬ o.IsOutermost) : o.method? (α := α) [] = none := by
  by_cases hfunction : o.node.role = .function
  · apply Occurrence.method?_eq_none
    rw [Option.eq_none_iff_forall_ne_some]
    intro names hnames
    have hopen := (classesOn_eq_some_iff h (mem_occurrences_iff.1 ho) hfunction).1 hnames
    exact houter ⟨hfunction, hopen.1⟩
  · rw [Occurrence.method?, if_neg hfunction]

end

/-- Whatever a walk goes through, it knows the same classes around it afterwards. The walk through a
whole tree, from no class, records each outermost function once, in pre-order, and nothing else. -/
theorem methods_are_outermost (t : SyntaxTree) (h : t.WellFormed) :
    (∀ (part : SyntaxTree) (w : Walk α), (visit w part).scope = w.scope) ∧
    List.Forall₂ Occurrence.RecordedAs (t.occurrences.filter fun o => o.IsOutermost)
      (visit ({} : Walk α) t).found.toList := by
  refine ⟨fun part w => scope_visit part w, ?_⟩
  have hmethods : (visit ({} : Walk α) t).found.toList = t.recordsIn [] := methods_eq t
  rw [hmethods]
  exact Selection.forall₂_filterMap (fun o ho houter => exists_recordedAs h ho houter)
    fun o ho houter => method?_eq_none_of_not_isOutermost h ho houter

/-- A definition with a name and a block. -/
def definition (kind name : String) (field : Option String) (block : List SyntaxTree) : SyntaxTree :=
  node { kind, field }
    [node { kind := "identifier", field := some "name", text := name } [],
      node { kind := "block", field := some "body" } block]

/-- A decorated function, a method of a nested class under a condition, and functions within it and
behind the nested class. -/
theorem methods_are_outermost_of_nested_class :
    let go := definition "async_function_definition" "go" none
      [definition "function_definition" "helper" none []]
    let t := node { kind := "module" }
      [node { kind := "decorated_definition" }
          [node { kind := "decorator" } [],
            definition "function_definition" "run" (some "definition") []],
        definition "class_definition" "Outer" none
          [definition "class_definition" "Inner" none [node { kind := "if_statement" } [go]],
            definition "function_definition" "stop" none []]]
    t.WellFormed ∧
      (visit ({} : Walk Unit) t).found.toList.map (·.name) = ["run", "Outer.Inner.go", "Outer.stop"] ∧
      List.Forall₂ Occurrence.RecordedAs (t.occurrences.filter fun o => o.IsOutermost)
        (visit ({} : Walk Unit) t).found.toList := by
  intro go t
  have h : t.WellFormed := ⟨by decide +kernel, by decide +kernel⟩
  exact ⟨h, by decide +kernel, (methods_are_outermost t h).2⟩

end RefactorAudit.Python.SyntaxTree

-- SUMMARY: Every decision within a recorded function counts once, towards one method.
import RefactorAudit.Proofs.Figure.Methods
import RefactorAudit.Proofs.Python.Outermost

/-!
# Complexity

The complexity of a function counts the decisions below its body, however deep. As no recorded
function lies within another one, their bodies share no node, and the complexity of the module
counts each decision within them once.
-/

namespace RefactorAudit.Python.SyntaxTree

variable {α : Type}

/-! ## Decisions in a tree -/

mutual

theorem decisionsBelow_eq :
    ∀ t : SyntaxTree, t.decisionsBelow = t.descendants.countP fun q => isDecision q.node.kind
  | node d cs => by
    rw [decisionsBelow]
    exact decisionsAmong_eq (node d cs) 0 cs

theorem decisionsAmong_eq (parent : SyntaxTree) (number : Nat) :
    ∀ cs : List SyntaxTree, decisionsAmong cs =
      (occurrencesAmong parent number cs).countP fun q => isDecision q.node.kind
  | [] => rfl
  | c :: rest => by
    rw [decisionsAmong, occurrencesAmong, List.countP_append, List.countP_map,
      decisionsBelow_eq c, decisionsAmong_eq parent (number + 1) rest, occurrences_eq,
      List.countP_cons]
    rw [Nat.add_comm (ite _ _ _)]
    rfl

end

/-! ## Bodies -/

namespace Occurrence

/-- The body of a function, as a node of the tree of the function. -/
def body? (o : Occurrence) : Option Occurrence :=
  (o.node.fieldNumber? "body").bind fun i =>
    (o.node.children[i]?).map fun body => ⟨o.way ++ [⟨o.node, i⟩], body⟩

/-- Whether a node lies below the body of a function. -/
def BodyHolds (o q : Occurrence) : Prop := ∃ body ∈ o.body?, body.HoldsBelow q

instance (o q : Occurrence) : Decidable (o.BodyHolds q) :=
  inferInstanceAs (Decidable (∃ body ∈ o.body?, _))

end Occurrence

section

variable {t body : SyntaxTree} {o o' q : Occurrence}

theorem exists_body? (ho : o ∈ t.occurrences) (h : o.node.child? "body" = some body) :
    ∃ b ∈ t.occurrences, o.body? = some b ∧ b.node = body := by
  obtain ⟨i, hchild, hfield⟩ := exists_of_child? h
  refine ⟨⟨o.way ++ [⟨o.node, i⟩], body⟩, ?_, ?_, rfl⟩
  · rw [mem_occurrences_iff] at ho ⊢
    exact ho.trans (.step hchild (.here body))
  · rw [Occurrence.body?, hfield, Option.bind_some, hchild]
    rfl

theorem Occurrence.BodyHolds.holds (h : o.BodyHolds q) : o.Holds q := by
  obtain ⟨b, hb, hholds, -⟩ := h
  obtain ⟨i, -, hb⟩ := Option.bind_eq_some_iff.1 hb
  obtain ⟨body, -, rfl⟩ := Option.map_eq_some_iff.1 hb
  refine List.IsPrefix.trans ?_ hholds
  rw [Occurrence.place, Occurrence.place, List.map_append]
  exact List.prefix_append _ _

/-- No node lies in the bodies of two recorded functions. -/
theorem eq_of_bodyHolds (ho : o ∈ t.recorded) (ho' : o' ∈ t.recorded) (h : o.BodyHolds q)
    (h' : o'.BodyHolds q) : o = o' := by
  rcases List.prefix_or_prefix_of_prefix h.holds h'.holds with hwithin | hwithin
  · exact eq_of_holds ho ho' hwithin
  · exact (eq_of_holds ho' ho hwithin).symm

/-- The decisions below the body of a function, counted among all nodes. -/
theorem countP_bodyHolds (ho : o ∈ t.occurrences) (h : o.node.child? "body" = some body) :
    (t.occurrences.countP fun q => o.BodyHolds q && isDecision q.node.kind) =
      body.decisionsBelow := by
  obtain ⟨b, hb, hbody, rfl⟩ := exists_body? ho h
  rw [decisionsBelow_eq, ← countP_holdsBelow hb (fun n => isDecision n.kind)]
  refine List.countP_congr fun q _ => ?_
  simp only [Occurrence.BodyHolds, hbody, Option.mem_def, Option.some.injEq, exists_eq_left']

end

/-! ## Methods -/

/-- A method that is the record of a function and counts the decisions below its body. -/
structure Occurrence.CountedBy (o : Occurrence) (m : Method α) : Prop where
  record : ∃ scope, methodOf scope o.node = some m
  complexity : ∃ body, o.node.child? "body" = some body ∧
    m.complexity = 1 + body.descendants.countP fun q => isDecision q.node.kind

section

variable {t : SyntaxTree}

theorem complexity_methodOf {body : SyntaxTree} {m : Method α} {scope : List String}
    (hm : methodOf scope t = some m) (h : t.child? "body" = some body) :
    m.complexity = 1 + body.decisionsBelow := by
  obtain ⟨name, -, rfl⟩ := Option.map_eq_some_iff.1 hm
  rw [Method.found, complexity, h, Option.getD_some]
  exact Nat.max_eq_left (Nat.le_add_right 1 _)

/-- In a tree whose functions have bodies, the methods count what lies below the bodies. -/
theorem forall₂_countedBy
    (h : ∀ o ∈ t.occurrences, o.node.role = .function → (o.node.child? "body").isSome) :
    List.Forall₂ (fun (o : Occurrence) (m : Method α) => o ∈ t.recorded ∧ o.CountedBy m)
      t.recorded t.methods := by
  refine List.Forall₂.imp (fun o m ⟨ho, hm⟩ => ⟨ho, ?_⟩)
    ((List.forall₂_and_left _ _).2 ⟨fun o ho => ho, forall₂_recorded t⟩)
  obtain ⟨scope, hmethod⟩ := Occurrence.exists_methodOf hm
  obtain ⟨ho, hfunction, -⟩ := mem_recorded.1 ho
  obtain ⟨body, hbody⟩ := Option.isSome_iff_exists.1 (h o ho hfunction)
  refine ⟨⟨scope, hmethod⟩, body, hbody, ?_⟩
  rw [complexity_methodOf hmethod hbody, decisionsBelow_eq]

theorem map_complexity {os : List Occurrence} {ms : List (Method α)}
    (h : List.Forall₂ (fun (o : Occurrence) (m : Method α) => o ∈ t.recorded ∧ o.CountedBy m)
      os ms) :
    ms.map (·.complexity) = os.map fun o =>
      1 + t.occurrences.countP fun q => o.BodyHolds q && isDecision q.node.kind := by
  induction h with
  | nil => rfl
  | cons hm _ ih =>
    obtain ⟨ho, -, body, hbody, hcomplexity⟩ := hm
    rw [List.map_cons, List.map_cons, ih, hcomplexity, ← decisionsBelow_eq,
      countP_bodyHolds (mem_recorded.1 ho).1 hbody]

/-- The decisions below the bodies of the recorded functions add up. -/
theorem sum_countP_bodyHolds (t : SyntaxTree) :
    (t.recorded.map fun o =>
        t.occurrences.countP fun q => o.BodyHolds q && isDecision q.node.kind).sum =
      t.occurrences.countP fun q =>
        t.recorded.any (fun o => o.BodyHolds q) && isDecision q.node.kind := by
  rw [← Selection.countP_any_eq_sum]
  · refine List.countP_congr fun q _ => ?_
    cases isDecision q.node.kind <;> simp
  · refine (pairwise_recorded t).imp_of_mem fun ho ho' hlt q _ ⟨hq, hq'⟩ => ?_
    rw [Bool.and_eq_true, decide_eq_true_eq] at hq hq'
    rw [eq_of_bodyHolds ho ho' hq.1 hq'.1] at hlt
    exact lt_irrefl _ hlt

end

/-- Every method is the record of a function, and its complexity counts the decisions below the body
of that function. The complexity of the module counts the methods and all decisions that lie below
the body of some recorded function, and none lies below the bodies of two. -/
theorem moduleComplexity_counts_decisions_once (path : String) (t : SyntaxTree)
    (h : ∀ o ∈ t.occurrences, o.node.role = .function → (o.node.child? "body").isSome) :
    let methods : List (Method α) := (Snapshot.new path t.methods).methods
    List.Forall₂ Occurrence.CountedBy t.recorded methods ∧
    Methods.moduleComplexity methods = 1 + methods.length +
      (t.occurrences.countP fun q =>
        t.recorded.any (fun o => o.BodyHolds q) && isDecision q.node.kind) ∧
    ∀ q, ∀ o ∈ t.recorded, ∀ o' ∈ t.recorded, o.BodyHolds q → o'.BodyHolds q → o = o' := by
  intro methods
  have hcounted : List.Forall₂ _ t.recorded methods := forall₂_countedBy h
  refine ⟨hcounted.imp fun o m hm => hm.2, ?_,
    fun q o ho o' ho' hq hq' => eq_of_bodyHolds ho ho' hq hq'⟩
  calc Methods.moduleComplexity methods
      = (methods.map (·.complexity)).sum + 1 := by
        rw [Methods.moduleComplexity, Methods.total_eq]
    _ = t.recorded.length + (t.recorded.map fun o =>
          t.occurrences.countP fun q => o.BodyHolds q && isDecision q.node.kind).sum + 1 := by
        rw [map_complexity hcounted, List.sum_map_add, List.map_const', List.sum_replicate_nat,
          Nat.mul_one]
    _ = _ := by
        rw [sum_countP_bodyHolds, hcounted.length_eq]
        omega

/-- A function with a loop in a function within it, and a function under a condition of the module,
which is in no body. -/
theorem moduleComplexity_counts_decisions_once_of_nested_function :
    let inner := definition "function_definition" "inner" none [node { kind := "for_statement" } []]
    let test := node { kind := "if_statement" } [node { kind := "boolean_operator" } []]
    let t := node { kind := "module" }
      [definition "function_definition" "outer" none [test, inner],
        node { kind := "if_statement" }
          [definition "function_definition" "loop" none [node { kind := "while_statement" } []]]]
    let methods : List (Method Unit) := (Snapshot.new "a.py" t.methods).methods
    (∀ o ∈ t.occurrences, o.node.role = .function → (o.node.child? "body").isSome) ∧
    methods.map (·.complexity) = [4, 2] ∧
    Methods.moduleComplexity methods = 7 ∧
    List.Forall₂ Occurrence.CountedBy t.recorded methods ∧
    Methods.moduleComplexity methods = 1 + methods.length +
      (t.occurrences.countP fun q =>
        t.recorded.any (fun o => o.BodyHolds q) && isDecision q.node.kind) := by
  intro inner test t methods
  have h : ∀ o ∈ t.occurrences, o.node.role = .function → (o.node.child? "body").isSome := by
    decide +kernel
  obtain ⟨hmethods, hmodule, -⟩ := moduleComplexity_counts_decisions_once (α := Unit) "a.py" t h
  exact ⟨h, by decide +kernel, by decide +kernel, hmethods, hmodule⟩

end RefactorAudit.Python.SyntaxTree

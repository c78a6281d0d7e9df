-- SUMMARY: The nodes of a syntax tree in pre-order, each with the way that leads to it.
import RefactorAudit.Python.SyntaxTree
import Mathlib.Data.List.Lex
import Mathlib.Data.List.Sort

/-!
# Occurrences

The same tree may stand at several places of a larger one, so a node is told by the way that leads
to it from the root. Listed in pre-order, the ways ascend; the nodes of a part of a tree are those
of the whole whose way begins with the way to the part.
-/

namespace RefactorAudit.Python.SyntaxTree

/-- One step down a tree. -/
structure Step where
  parent : SyntaxTree
  /-- The number of the child that the step leads to. -/
  child : Nat

/-- A node of a tree, with the steps that lead to it from the root. -/
structure Occurrence where
  way : List Step
  node : SyntaxTree

namespace Occurrence

/-- The numbers of the children on the way. -/
def place (o : Occurrence) : List Nat := o.way.map (·.child)

/-- The same node, seen from further up. -/
def after (way : List Step) (o : Occurrence) : Occurrence := { o with way := way ++ o.way }

@[simp] theorem after_node (way : List Step) (o : Occurrence) : (o.after way).node = o.node := rfl

@[simp] theorem after_way (way : List Step) (o : Occurrence) : (o.after way).way = way ++ o.way :=
  rfl

end Occurrence

mutual

/-- The nodes of a tree, each before those below it. -/
def occurrences : SyntaxTree → List Occurrence
  | node d cs => ⟨[], node d cs⟩ :: occurrencesAmong (node d cs) 0 cs

/-- The nodes of the children of a tree, from the child of a number on. -/
def occurrencesAmong (parent : SyntaxTree) (number : Nat) : List SyntaxTree → List Occurrence
  | [] => []
  | c :: rest =>
    c.occurrences.map (·.after [⟨parent, number⟩]) ++ occurrencesAmong parent (number + 1) rest

end

/-- The nodes below the root of a tree. -/
def descendants (t : SyntaxTree) : List Occurrence := occurrencesAmong t 0 t.children

theorem occurrences_eq (t : SyntaxTree) : t.occurrences = ⟨[], t⟩ :: t.descendants := by
  obtain ⟨d, cs⟩ := t
  rw [occurrences]
  rfl

/-! ## Ways -/

/-- Steps that lead from a tree to a node of it. -/
inductive Leads : SyntaxTree → List Step → SyntaxTree → Prop where
  | here (t : SyntaxTree) : Leads t [] t
  | step {t c n : SyntaxTree} {i : Nat} {way : List Step} (hchild : t.children[i]? = some c)
      (rest : Leads c way n) : Leads t (⟨t, i⟩ :: way) n

section

variable {t m n : SyntaxTree} {a b : List Step} {o q : Occurrence}

theorem mem_occurrencesAmong {parent : SyntaxTree} {number : Nat} {cs : List SyntaxTree} :
    o ∈ occurrencesAmong parent number cs ↔
      ∃ (i : Nat) (c : SyntaxTree), cs[i]? = some c ∧
        ∃ q ∈ c.occurrences, q.after [⟨parent, number + i⟩] = o := by
  induction cs generalizing number with
  | nil => simp [occurrencesAmong]
  | cons c rest ih =>
    rw [occurrencesAmong, List.mem_append, List.mem_map, ih]
    constructor
    · rintro (hfirst | ⟨i, c', hi, hq⟩)
      · exact ⟨0, c, rfl, hfirst⟩
      · refine ⟨i + 1, c', hi, ?_⟩
        rwa [← Nat.add_assoc, Nat.add_right_comm]
    · rintro ⟨i, c', hi, hq⟩
      cases i with
      | zero =>
        obtain rfl := Option.some.inj hi
        exact .inl hq
      | succ i =>
        refine .inr ⟨i, c', hi, ?_⟩
        rwa [Nat.add_right_comm, Nat.add_assoc]

theorem mem_occurrences_iff : o ∈ t.occurrences ↔ Leads t o.way o.node := by
  constructor
  · obtain ⟨way, n⟩ := o
    induction way generalizing t with
    | nil =>
      obtain ⟨d, cs⟩ := t
      rw [occurrences, List.mem_cons, mem_occurrencesAmong]
      rintro (hroot | ⟨i, c, -, q, -, hq⟩)
      · rw [Occurrence.mk.injEq] at hroot
        exact hroot.2 ▸ .here _
      · exact absurd (congrArg Occurrence.way hq) (List.cons_ne_nil _ _)
    | cons s way ih =>
      obtain ⟨d, cs⟩ := t
      rw [occurrences, List.mem_cons, mem_occurrencesAmong]
      rintro (hroot | ⟨i, c, hi, q, hq, hbelow⟩)
      · exact absurd (congrArg Occurrence.way hroot) (List.cons_ne_nil _ _)
      · obtain ⟨qway, qnode⟩ := q
        simp only [Occurrence.after, List.cons_append, List.nil_append, Occurrence.mk.injEq,
          List.cons.injEq, Nat.zero_add] at hbelow
        obtain ⟨⟨rfl, rfl⟩, rfl⟩ := hbelow
        exact .step hi (ih hq)
  · obtain ⟨way, n⟩ := o
    intro h
    dsimp only at h
    induction h with
    | here t =>
      obtain ⟨d, cs⟩ := t
      rw [occurrences]
      exact List.mem_cons_self
    | @step t c n i way hchild rest ih =>
      obtain ⟨d, cs⟩ := t
      rw [occurrences, List.mem_cons, mem_occurrencesAmong]
      exact .inr ⟨i, c, hchild, _, ih, by simp [Occurrence.after]⟩

theorem root_mem_occurrences (t : SyntaxTree) : ⟨[], t⟩ ∈ t.occurrences :=
  mem_occurrences_iff.2 (.here t)

theorem Leads.trans (ha : Leads t a m) (hb : Leads m b n) : Leads t (a ++ b) n := by
  induction ha with
  | here t => exact hb
  | step hchild _ ih => exact .step hchild (ih hb)

theorem Leads.after_mem (h : Leads t a m) (ho : o ∈ m.occurrences) : o.after a ∈ t.occurrences :=
  mem_occurrences_iff.2 (h.trans (mem_occurrences_iff.1 ho))

/-- A way whose numbers begin with those of another goes on from there. -/
theorem Leads.exists_append (ha : Leads t a m) (hb : Leads t b n)
    (h : a.map (·.child) <+: b.map (·.child)) : ∃ rest, b = a ++ rest ∧ Leads m rest n := by
  induction ha generalizing b with
  | here t => exact ⟨b, rfl, hb⟩
  | step hchild _ ih =>
    cases hb with
    | here t => exact absurd (List.prefix_nil.1 h) (List.cons_ne_nil _ _)
    | step hchild' rest' =>
      obtain ⟨rfl, hplaces⟩ := List.cons_prefix_cons.1 h
      obtain rfl := Option.some.inj (hchild.symm.trans hchild')
      obtain ⟨rest, rfl, hrest⟩ := ih rest' hplaces
      exact ⟨rest, rfl, hrest⟩

/-! ## Order -/

theorem place_after (way : List Step) (o : Occurrence) :
    (o.after way).place = way.map (·.child) ++ o.place := by
  rw [Occurrence.place, Occurrence.place, Occurrence.after_way, List.map_append]

mutual

/-- Pre-order is the order of the places. -/
theorem pairwise_occurrences :
    ∀ t : SyntaxTree, t.occurrences.Pairwise fun o q => o.place < q.place
  | node d cs => by
    rw [occurrences]
    refine List.pairwise_cons.2 ⟨fun q hq => ?_, pairwise_occurrencesAmong _ 0 cs⟩
    obtain ⟨i, c, -, q, -, rfl⟩ := mem_occurrencesAmong.1 hq
    exact List.nil_lt_cons _ _

theorem pairwise_occurrencesAmong (parent : SyntaxTree) (number : Nat) :
    ∀ cs : List SyntaxTree,
      (occurrencesAmong parent number cs).Pairwise fun o q => o.place < q.place
  | [] => List.Pairwise.nil
  | c :: rest => by
    rw [occurrencesAmong]
    refine List.pairwise_append.2 ⟨?_, pairwise_occurrencesAmong parent (number + 1) rest, ?_⟩
    · refine List.pairwise_map.2 ((pairwise_occurrences c).imp fun h => ?_)
      rw [place_after, place_after]
      exact List.Lex.append_left _ h _
    · intro o ho q hq
      obtain ⟨o, -, rfl⟩ := List.mem_map.1 ho
      obtain ⟨i, c', -, q, -, rfl⟩ := mem_occurrencesAmong.1 hq
      exact List.Lex.rel (show number < number + 1 + i by omega)

end

/-- Two lists of nodes in pre-order are equal if they have the same nodes. -/
theorem eq_of_mem_iff_of_pairwise {os qs : List Occurrence}
    (ho : os.Pairwise fun o q => o.place < q.place) (hq : qs.Pairwise fun o q => o.place < q.place)
    (h : ∀ o, o ∈ os ↔ o ∈ qs) : os = qs := by
  have hirrefl : Std.Irrefl fun o q : Occurrence => o.place < q.place := ⟨fun o => lt_irrefl o.place⟩
  have hantisymm : Std.Antisymm fun o q : Occurrence => o.place < q.place :=
    ⟨fun _ _ hab hba => absurd hba (lt_asymm hab)⟩
  exact List.Pairwise.eq_of_mem_iff ho hq h

/-! ## Parts of a tree -/

/-- Whether a node is another one or lies below it. -/
def Occurrence.Holds (o q : Occurrence) : Prop := o.place <+: q.place

instance (o q : Occurrence) : Decidable (o.Holds q) := inferInstanceAs (Decidable (_ <+: _))

/-- Whether a node lies below another one. -/
def Occurrence.HoldsBelow (o q : Occurrence) : Prop := o.Holds q ∧ o.place ≠ q.place

instance (o q : Occurrence) : Decidable (o.HoldsBelow q) := inferInstanceAs (Decidable (_ ∧ _))

/-- The nodes below a node, and itself, are those of its tree. -/
theorem filter_holds (ho : o ∈ t.occurrences) :
    (t.occurrences.filter fun q => o.Holds q) = o.node.occurrences.map (·.after o.way) := by
  refine eq_of_mem_iff_of_pairwise ((pairwise_occurrences t).filter _) ?_ fun q => ?_
  · refine List.pairwise_map.2 ((pairwise_occurrences o.node).imp fun h => ?_)
    rw [place_after, place_after]
    exact List.Lex.append_left _ h _
  · rw [List.mem_filter, List.mem_map, decide_eq_true_eq]
    rw [mem_occurrences_iff] at ho
    constructor
    · rintro ⟨hq, hholds⟩
      obtain ⟨rest, hway, hrest⟩ := ho.exists_append (mem_occurrences_iff.1 hq) hholds
      obtain ⟨way, n⟩ := q
      exact ⟨⟨rest, n⟩, mem_occurrences_iff.2 hrest, by rw [Occurrence.after, ← hway]⟩
    · rintro ⟨q, hq, rfl⟩
      refine ⟨ho.after_mem hq, ?_⟩
      rw [Occurrence.Holds, place_after]
      exact List.prefix_append _ _

/-- What stands below a node of a tree is counted in the tree of the node. -/
theorem countP_holdsBelow (ho : o ∈ t.occurrences) (p : SyntaxTree → Bool) :
    (t.occurrences.countP fun q => o.HoldsBelow q && p q.node) =
      o.node.descendants.countP fun q => p q.node := by
  have hcount : (t.occurrences.countP fun q => o.HoldsBelow q && p q.node) =
      (t.occurrences.filter fun q => o.Holds q).countP fun q => o.place ≠ q.place && p q.node := by
    rw [List.countP_filter]
    refine List.countP_congr fun q _ => ?_
    rw [Bool.and_eq_true, Bool.and_eq_true, Bool.and_eq_true, decide_eq_true_eq, decide_eq_true_eq,
      decide_eq_true_eq, Occurrence.HoldsBelow]
    tauto
  rw [hcount, filter_holds ho, occurrences_eq, List.map_cons, List.countP_cons_of_neg, List.countP_map]
  · refine List.countP_congr fun q hq => ?_
    obtain ⟨i, c, -, q, -, rfl⟩ := mem_occurrencesAmong.1 hq
    have hne : o.place ≠ ((q.after [⟨o.node, 0 + i⟩]).after o.way).place := by
      rw [place_after, place_after]
      exact fun h => List.cons_ne_nil _ _ (List.append_right_eq_self.1 h.symm)
    simp only [Function.comp_apply, hne, ne_eq, not_false_eq_true, decide_true, Bool.true_and,
      Occurrence.after_node]
  · simp [Occurrence.place]

end

end RefactorAudit.Python.SyntaxTree

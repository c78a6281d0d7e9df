-- SUMMARY: The fault that is reported of a tree is the first one in pre-order.
import RefactorAudit.Proofs.Python.Occurrences
import RefactorAudit.Python.Extract

/-!
# First faults

The search for a fault goes down from the root, from a sound node to its first faulty child. As long
as the flags tell the truth, each node that it comes to is at fault or has a faulty child, so it
ends at a node at fault and never has to give up. All trees that it passes over are without fault,
so it ends at the first node at fault in pre-order.
-/

namespace RefactorAudit.Python.SyntaxTree

/-! ## Faults and flags -/

/-- Whether a node itself fits no rule or is missing. -/
def AtFault (t : SyntaxTree) : Prop := t.data.soundness ≠ .sound

instance (t : SyntaxTree) : Decidable t.AtFault :=
  inferInstanceAs (Decidable (t.data.soundness ≠ .sound))

/-- The flag of each node tells whether the node or one below it is at fault. -/
def Flagged (t : SyntaxTree) : Prop :=
  ∀ o ∈ t.occurrences, o.node.data.faulty = true ↔ ∃ q ∈ o.node.occurrences, q.node.AtFault

instance (t : SyntaxTree) : Decidable t.Flagged :=
  inferInstanceAs (Decidable (∀ o ∈ t.occurrences,
    o.node.data.faulty = true ↔ ∃ q ∈ o.node.occurrences, q.node.AtFault))

/-- What a report says of a node at fault. -/
structure SyntaxFault.TellsOf (f : SyntaxFault) (t : SyntaxTree) : Prop where
  line : f.line = t.startLine
  missing : t.data.soundness = .missing → f.message = s!"missing {t.kind}"
  invalid : t.data.soundness = .fault → f.message = "invalid syntax"

variable {t c n : SyntaxTree} {way : List Step}

theorem Flagged.part (h : t.Flagged) (hway : Leads t way n) : n.Flagged :=
  fun o ho => h (o.after way) (hway.after_mem ho)

theorem Flagged.child (h : t.Flagged) (hc : c ∈ t.children) : c.Flagged := by
  obtain ⟨i, hi⟩ := List.mem_iff_getElem?.1 hc
  exact h.part (.step hi (.here c))

theorem Flagged.faulty_iff (h : t.Flagged) :
    t.data.faulty = true ↔ ∃ q ∈ t.occurrences, q.node.AtFault :=
  h _ (root_mem_occurrences t)

theorem Flagged.sound_of_not_faulty (h : t.Flagged) (hfaulty : t.data.faulty = false) :
    ∀ q ∈ t.occurrences, ¬ q.node.AtFault := by
  intro q hq hfault
  have := h.faulty_iff.2 ⟨q, hq, hfault⟩
  simp [hfaulty] at this

/-- A faulty node is at fault itself or has a faulty child. -/
theorem Flagged.atFault_or (h : t.Flagged) (hfaulty : t.data.faulty = true) :
    t.AtFault ∨ ∃ c ∈ t.children, c.data.faulty = true := by
  obtain ⟨q, hq, hfault⟩ := h.faulty_iff.1 hfaulty
  have hway := mem_occurrences_iff.1 hq
  generalize hway' : q.way = way at hway
  cases hway with
  | here => exact .inl hfault
  | @step _ c _ i way hchild rest =>
    have hc : c ∈ t.children := List.mem_of_getElem? hchild
    have hbelow : ⟨way, q.node⟩ ∈ c.occurrences := mem_occurrences_iff.2 rest
    exact .inr ⟨c, hc, (h.child hc).faulty_iff.2 ⟨_, hbelow, hfault⟩⟩

/-! ## The search -/

/-- The nodes to which the search for a fault in a tree comes. -/
inductive Visits : SyntaxTree → SyntaxTree → Prop where
  | root (t : SyntaxTree) : Visits t t
  | descend {t c n : SyntaxTree} (hsound : ¬ t.AtFault)
      (hchild : t.children.find? (·.data.faulty) = some c) (rest : Visits c n) : Visits t n

/-- The search ends at a node without having found a fault. -/
def GivesUp (t : SyntaxTree) : Prop := t.data.soundness = .sound ∧ firstFaultAmong t.children = none

theorem firstFaultAmong_eq (cs : List SyntaxTree) :
    firstFaultAmong cs = (cs.find? (·.data.faulty)).map firstFault := by
  induction cs with
  | nil => rfl
  | cons c rest ih =>
    rw [firstFaultAmong, List.find?_cons]
    split <;> simp_all

theorem firstFault_of_child (hsound : ¬ t.AtFault)
    (hchild : t.children.find? (·.data.faulty) = some c) : t.firstFault = c.firstFault := by
  obtain ⟨d, cs⟩ := t
  have hsound : d.soundness = .sound := not_not.1 hsound
  have hamong : firstFaultAmong cs = some c.firstFault := by
    rw [firstFaultAmong_eq]
    exact congrArg (Option.map firstFault) hchild
  simp [firstFault, hsound, hamong]

theorem Visits.firstFault_eq (h : Visits t n) : t.firstFault = n.firstFault := by
  induction h with
  | root t => rfl
  | descend hsound hchild _ ih => exact (firstFault_of_child hsound hchild).trans ih

theorem AtFault.tellsOf (h : t.AtFault) : t.firstFault.TellsOf t := by
  obtain ⟨d, cs⟩ := t
  cases hsoundness : d.soundness with
  | sound => exact absurd hsoundness h
  | missing => constructor <;> simp [firstFault, hsoundness, SyntaxFault.line, SyntaxFault.message,
      startLine, kind, data]
  | fault => constructor <;> simp [firstFault, hsoundness, SyntaxFault.line, SyntaxFault.message,
      startLine, data]

theorem Flagged.not_givesUp (h : t.Flagged) (hfaulty : t.data.faulty = true) : ¬ t.GivesUp := by
  rintro ⟨hsound, hnone⟩
  rcases h.atFault_or hfaulty with hfault | ⟨c, hc, hchild⟩
  · exact hfault hsound
  · rw [firstFaultAmong_eq, Option.map_eq_none_iff, List.find?_eq_none] at hnone
    exact hnone c hc hchild

/-- The search comes to faulty nodes only. -/
theorem Visits.faulty (h : Visits t n) (hflags : t.Flagged) (hfaulty : t.data.faulty = true) :
    n.Flagged ∧ n.data.faulty = true := by
  induction h with
  | root t => exact ⟨hflags, hfaulty⟩
  | descend _ hchild _ ih =>
    have hc := List.find?_some hchild
    exact ih (hflags.child (List.mem_of_find?_eq_some hchild)) hc

/-! ## The first fault -/

theorem find?_after (way : List Step) (os : List Occurrence) :
    (os.map (·.after way)).find? (fun q => q.node.AtFault) =
      (os.find? fun q => q.node.AtFault).map (·.after way) :=
  List.find?_map

mutual

/-- The search comes to the first node at fault. -/
theorem visits_first : ∀ t : SyntaxTree, t.Flagged → t.data.faulty = true →
    ∃ o, t.occurrences.find? (fun q => q.node.AtFault) = some o ∧ Visits t o.node
  | node d cs => by
    intro hflags hfaulty
    rw [occurrences]
    by_cases hfault : (node d cs).AtFault
    · exact ⟨⟨[], node d cs⟩, by simp [hfault], .root _⟩
    · have hchild : ∃ c ∈ cs, c.data.faulty = true :=
        (hflags.atFault_or hfaulty).resolve_left hfault
      obtain ⟨o, c, ho, hc, hvisits⟩ :=
        visits_first_among (node d cs) 0 cs (fun c hc => hflags.child hc) hchild
      exact ⟨o, by simpa [hfault] using ho, .descend hfault hc hvisits⟩

theorem visits_first_among (parent : SyntaxTree) (number : Nat) : ∀ cs : List SyntaxTree,
    (∀ c ∈ cs, c.Flagged) → (∃ c ∈ cs, c.data.faulty = true) →
    ∃ o c, (occurrencesAmong parent number cs).find? (fun q => q.node.AtFault) = some o ∧
      cs.find? (·.data.faulty) = some c ∧ Visits c o.node
  | [] => by simp
  | c :: rest => by
    intro hflags hsome
    have hhead : c.Flagged := hflags c List.mem_cons_self
    rw [occurrencesAmong, List.find?_append, find?_after]
    cases hfaulty : c.data.faulty with
    | true =>
      obtain ⟨o, ho, hvisits⟩ := visits_first c hhead hfaulty
      exact ⟨o.after [⟨parent, number⟩], c, by simp [ho], by simp [hfaulty], hvisits⟩
    | false =>
      -- Nothing in the first tree is at fault: the search and the list of nodes both pass over it.
      have hnone : c.occurrences.find? (fun q => q.node.AtFault) = none := by
        simpa using hhead.sound_of_not_faulty hfaulty
      have hrest : ∃ c ∈ rest, c.data.faulty = true := by simpa [hfaulty] using hsome
      obtain ⟨o, c', ho, hc', hvisits⟩ := visits_first_among parent (number + 1) rest
        (fun c hc => hflags c (List.mem_cons_of_mem _ hc)) hrest
      exact ⟨o, c', by simp [hnone, ho], by simp [hfaulty, hc'], hvisits⟩

end

/-- In a tree with a fault whose flags tell the truth, the fault that is reported is that of the
first node at fault in pre-order: its line, and whether it is missing or fits no rule. The search
comes to this node and gives up at no node on its way. -/
theorem firstFault_first_in_preorder (t : SyntaxTree) (hflags : t.Flagged)
    (hfault : ∃ q ∈ t.occurrences, q.node.AtFault) :
    (∃ before o after, t.occurrences = before ++ o :: after ∧
      (∀ q ∈ before, ¬ q.node.AtFault) ∧ o.node.AtFault ∧
      t.firstFault.TellsOf o.node ∧ Visits t o.node) ∧
    (∀ n, Visits t n → t.firstFault = n.firstFault ∧ ¬ n.GivesUp) ∧
    ∀ path source, ofSource source = t →
      (extract path source : Except SyntaxFault Snapshot) = .error t.firstFault := by
  have hfaulty : t.data.faulty = true := hflags.faulty_iff.2 hfault
  refine ⟨?_, ?_, ?_⟩
  · obtain ⟨o, ho, hvisits⟩ := visits_first t hflags hfaulty
    obtain ⟨hatFault, before, after, hsplit, hbefore⟩ := List.find?_eq_some_iff_append.1 ho
    have hatFault : o.node.AtFault := of_decide_eq_true hatFault
    have htells : t.firstFault.TellsOf o.node := hvisits.firstFault_eq ▸ hatFault.tellsOf
    exact ⟨before, o, after, hsplit, by simpa using hbefore, hatFault, htells, hvisits⟩
  · intro n hvisits
    obtain ⟨hflagged, hn⟩ := hvisits.faulty hflags hfaulty
    exact ⟨hvisits.firstFault_eq, hflagged.not_givesUp hn⟩
  · rintro path source rfl
    simp [extract, hfaulty]

/-- A token that is missing within a function, with a stretch that fits no rule behind it. -/
theorem firstFault_first_in_preorder_of_missing_token :
    let missing := node { kind := ")", start := ⟨1, 11⟩, soundness := .missing, faulty := true } []
    let function := node { kind := "function_definition", start := ⟨1, 0⟩, faulty := true }
      [node { kind := "identifier", start := ⟨1, 4⟩, text := "broken" } [],
        node { kind := "parameters", start := ⟨1, 10⟩, faulty := true }
          [node { kind := "(", start := ⟨1, 10⟩, text := "(" } [], missing]]
    let fault := node { kind := "ERROR", start := ⟨4, 0⟩, soundness := .fault, faulty := true }
      [node { kind := "identifier", start := ⟨4, 0⟩, text := "x" } []]
    let t := node { kind := "module", faulty := true }
      [node { kind := "pass_statement" } [], function, fault]
    t.Flagged ∧ (∃ q ∈ t.occurrences, q.node.AtFault) ∧
    t.firstFault = .missing 2 ")" ∧ t.firstFault.message = "missing )" ∧
    ∀ n, Visits t n → ¬ n.GivesUp := by
  intro missing function fault t
  have hflags : t.Flagged := by decide +kernel
  have hfault : ∃ q ∈ t.occurrences, q.node.AtFault := by decide +kernel
  obtain ⟨-, hvisits, -⟩ := firstFault_first_in_preorder t hflags hfault
  refine ⟨hflags, hfault, by decide +kernel, by decide +kernel, ?_⟩
  intro n hn
  exact (hvisits n hn).2

end RefactorAudit.Python.SyntaxTree

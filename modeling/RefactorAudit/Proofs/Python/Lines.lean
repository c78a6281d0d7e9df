-- SUMMARY: No line belongs to two methods, so no line of a report is counted twice.
import RefactorAudit.Coverage.Attribution
import RefactorAudit.Proofs.Figure.Methods
import RefactorAudit.Proofs.Python.Recording
import Mathlib.Data.Prod.Lex

/-!
# Lines

In a tree that is laid out in order, a function ends before the next one outside it begins. If the two
share no row, the last line of the one lies above the first line of the other. As recorded functions
never lie within each other, this holds of all methods.
-/

namespace RefactorAudit

variable {α : Type}

/-! ## Counting lines -/

theorem Method.linesTotal_covered [Figure α] (file : FileCoverage α) (m : Method α) :
    (m.covered file).linesTotal = file.executable.countP m.containsLine := by
  unfold covered FileCoverage.hasLines
  cases hlines : file.executable with
  | nil => rfl
  | cons line rest =>
    rw [FileCoverage.countsIn, hlines]
    rfl

theorem Method.linesHit_covered_le [Figure α] (file : FileCoverage α) (m : Method α) :
    (m.covered file).linesHit ≤ file.hit.countP m.containsLine := by
  unfold covered
  split
  · exact le_refl _
  · exact Nat.zero_le _

/-- Methods that share no line count no line twice. -/
theorem Methods.sum_countP_le {methods : List (Method α)} (lines : List Nat)
    (h : methods.Pairwise fun m m' => ∀ line, ¬ (m.containsLine line ∧ m'.containsLine line)) :
    (methods.map fun m => lines.countP m.containsLine).sum ≤ lines.length := by
  rw [← Selection.countP_any_eq_sum (h.imp fun hline line _ => hline line)]
  exact List.countP_le_length

namespace Python

/-- Places are in the order of the source. -/
instance : Preorder Point := Preorder.lift fun p => toLex (p.row, p.column)

theorem Point.le_iff {p q : Point} :
    p ≤ q ↔ p.row < q.row ∨ p.row = q.row ∧ p.column ≤ q.column :=
  Prod.Lex.toLex_le_toLex

instance : DecidableLE Point := fun _ _ => decidable_of_iff _ Point.le_iff.symm

theorem Point.row_le {p q : Point} (h : p ≤ q) : p.row ≤ q.row := by
  rcases Point.le_iff.1 h with hrow | ⟨hrow, -⟩
  · exact Nat.le_of_lt hrow
  · exact Nat.le_of_eq hrow

namespace SyntaxTree

/-! ## Layout -/

/-- Every node lies within its parent, and behind the siblings before it. -/
structure LaidOut (t : SyntaxTree) : Prop where
  range : ∀ o ∈ t.occurrences, o.node.data.start ≤ o.node.data.stop
  within : ∀ o ∈ t.occurrences, ∀ c ∈ o.node.children,
    o.node.data.start ≤ c.data.start ∧ c.data.stop ≤ o.node.data.stop
  siblings : ∀ o ∈ t.occurrences,
    o.node.children.Pairwise fun c c' => c.data.stop ≤ c'.data.start

/-- Whether a node has something on a row. A node over several rows that ends before the first
character of a row has nothing there. -/
def Occupies (t : SyntaxTree) (row : Nat) : Prop :=
  t.data.start.row ≤ row ∧ row ≤ t.data.stop.row ∧
    ¬ (t.data.start.row < t.data.stop.row ∧ row = t.data.stop.row ∧ t.data.stop.column = 0)

/-- Functions of which neither lies within the other share no row. -/
def FunctionsApart (t : SyntaxTree) : Prop :=
  ∀ o ∈ t.occurrences, ∀ o' ∈ t.occurrences, o.node.role = .function → o'.node.role = .function →
    ¬ o.Holds o' → ¬ o'.Holds o → ∀ row, ¬ (o.node.Occupies row ∧ o'.node.Occupies row)

section

variable {t n n' : SyntaxTree} {a b : List Step}

theorem LaidOut.part (h : t.LaidOut) (ha : Leads t a n) : n.LaidOut :=
  ⟨fun o ho => h.range (o.after a) (ha.after_mem ho),
    fun o ho => h.within (o.after a) (ha.after_mem ho),
    fun o ho => h.siblings (o.after a) (ha.after_mem ho)⟩

theorem LaidOut.within_of_leads (h : t.LaidOut) (ha : Leads t a n) :
    t.data.start ≤ n.data.start ∧ n.data.stop ≤ t.data.stop := by
  induction ha with
  | here t => exact ⟨le_refl _, le_refl _⟩
  | @step t c n i way hchild rest ih =>
    obtain ⟨hstart, hstop⟩ := h.within _ (root_mem_occurrences t) c (List.mem_of_getElem? hchild)
    obtain ⟨hstart', hstop'⟩ := ih (h.part (.step hchild (.here c)))
    exact ⟨hstart.trans hstart', hstop'.trans hstop⟩

/-- What comes later in pre-order, and not from within, begins behind the end. -/
theorem LaidOut.stop_le_start (h : t.LaidOut) (ha : Leads t a n) (hb : Leads t b n')
    (hlt : a.map (·.child) < b.map (·.child)) (hout : ¬ a.map (·.child) <+: b.map (·.child)) :
    n.data.stop ≤ n'.data.start := by
  induction ha generalizing b with
  | here t => exact absurd (List.nil_prefix) hout
  | @step t c n i way hchild rest ih =>
    cases hb with
    | here t => exact absurd hlt (List.not_lt_nil _)
    | @step _ c' _ i' way' hchild' rest' =>
      have hpart {j : Nat} {d : SyntaxTree} (hd : t.children[j]? = some d) : d.LaidOut :=
        h.part (.step hd (.here d))
      rcases List.cons_lt_cons_iff.1 hlt with hnumber | ⟨rfl, hrest⟩
      · -- The ways part here, so the two lie in different children.
        obtain ⟨hi, rfl⟩ := List.getElem?_eq_some_iff.1 hchild
        obtain ⟨hi', rfl⟩ := List.getElem?_eq_some_iff.1 hchild'
        have hsiblings := List.pairwise_iff_getElem.1 (h.siblings _ (root_mem_occurrences t))
          i i' hi hi' hnumber
        calc n.data.stop
            ≤ t.children[i].data.stop := ((hpart hchild).within_of_leads rest).2
          _ ≤ t.children[i'].data.start := hsiblings
          _ ≤ n'.data.start := ((hpart hchild').within_of_leads rest').1
      · obtain rfl := Option.some.inj (hchild.symm.trans hchild')
        exact ih (hpart hchild) rest' hrest fun hprefix =>
          hout (List.cons_prefix_cons.2 ⟨rfl, hprefix⟩)

/-! ## Rows and lines -/

theorem occupies_iff {row : Nat} :
    n.Occupies row ↔ n.startLine ≤ row + 1 ∧ row + 1 ≤ n.endLine := by
  unfold Occupies startLine endLine
  dsimp only
  split
  · omega
  · omega

theorem startLine_le_endLine (h : n.data.start ≤ n.data.stop) : n.startLine ≤ n.endLine := by
  have hrow := Point.row_le h
  unfold startLine endLine
  dsimp only
  split
  · omega
  · omega

theorem endLine_le (n : SyntaxTree) : n.endLine ≤ n.data.stop.row + 1 := by
  unfold endLine
  dsimp only
  split
  · omega
  · omega

theorem endLine_lt_startLine (hn : n.data.start ≤ n.data.stop) (hn' : n'.data.start ≤ n'.data.stop)
    (hle : n.data.stop ≤ n'.data.start) (h : ∀ row, ¬ (n.Occupies row ∧ n'.Occupies row)) :
    n.endLine < n'.startLine := by
  have hend : n.endLine ≤ n'.startLine :=
    (endLine_le n).trans (Nat.succ_le_succ (Point.row_le hle))
  refine Nat.lt_of_le_of_ne hend fun heq => ?_
  -- Otherwise both have something on the first row of the second.
  have hstart : n.startLine ≤ n.endLine := startLine_le_endLine hn
  rw [heq] at hstart
  exact h n'.data.start.row ⟨occupies_iff.2 ⟨hstart, Nat.le_of_eq heq.symm⟩,
    occupies_iff.2 ⟨Nat.le_refl _, startLine_le_endLine hn'⟩⟩

end

/-! ## Lines of methods -/

section

variable {t : SyntaxTree} {o : Occurrence} {m : Method α}

theorem mem_recorded_of_method? {scope : List String} (ho : o ∈ t.occurrences)
    (hm : o.method? scope = some m) : o ∈ t.recorded :=
  mem_recorded.2 ⟨ho, Occurrence.method?_isSome_iff.1 (Option.isSome_of_mem hm)⟩

theorem lines_of_method? {scope : List String} (hm : o.method? scope = some m) :
    m.startLine = o.node.startLine ∧ m.endLine = o.node.endLine := by
  obtain ⟨inner, hm⟩ := Occurrence.exists_methodOf hm
  obtain ⟨name, -, rfl⟩ := Option.map_eq_some_iff.1 hm
  exact ⟨rfl, rfl⟩

theorem LaidOut.startLine_le_endLine_of_mem (h : t.LaidOut) (hm : m ∈ t.methods) :
    1 ≤ m.startLine ∧ m.startLine ≤ m.endLine := by
  rw [methods_eq] at hm
  obtain ⟨o, ho, hm⟩ := List.mem_filterMap.1 hm
  obtain ⟨hstart, hend⟩ := lines_of_method? hm
  rw [hstart, hend]
  exact ⟨Nat.le_add_left _ _, startLine_le_endLine (h.range o ho)⟩

/-- Each method ends above the first line of the next. -/
theorem LaidOut.pairwise_methods (h : t.LaidOut) (hapart : t.FunctionsApart) :
    (t.methods (α := α)).Pairwise fun m m' => m.endLine < m'.startLine := by
  rw [methods_eq, recordsIn, List.pairwise_filterMap]
  refine (pairwise_occurrences t).imp_of_mem fun {o o'} ho ho' hlt m hm m' hm' => ?_
  have hrecorded := mem_recorded_of_method? ho hm
  have hrecorded' := mem_recorded_of_method? ho' hm'
  have hne : o ≠ o' := fun heq => lt_irrefl o.place (heq ▸ hlt)
  have hout : ¬ o.Holds o' := mt (eq_of_holds hrecorded hrecorded') hne
  have hout' : ¬ o'.Holds o := mt (eq_of_holds hrecorded' hrecorded) hne.symm
  have hbehind : o.node.data.stop ≤ o'.node.data.start :=
    h.stop_le_start (mem_occurrences_iff.1 ho) (mem_occurrences_iff.1 ho') hlt hout
  rw [(lines_of_method? hm).2, (lines_of_method? hm').1]
  exact endLine_lt_startLine (h.range o ho) (h.range o' ho') hbehind
    (hapart o ho o' ho' (mem_recorded.1 hrecorded).2.1 (mem_recorded.1 hrecorded').2.1 hout hout')

/-- The methods of a tree that is laid out in order, and in which functions share no row, ascend and
share no line. So whatever a report says of the file, the methods together have no more lines than
are executable, and no more hit lines than were hit. -/
theorem methods_share_no_line [Figure α] (t : SyntaxTree) (h : t.LaidOut)
    (hapart : t.FunctionsApart) :
    let methods : List (Method α) := t.methods
    (∀ m ∈ methods, 1 ≤ m.startLine ∧ m.startLine ≤ m.endLine) ∧
    methods.Pairwise (fun m m' => m.startLine < m'.startLine ∧ m.endLine < m'.endLine) ∧
    methods.Pairwise (fun m m' => ∀ line, ¬ (m.containsLine line ∧ m'.containsLine line)) ∧
    ∀ file : FileCoverage α,
      Methods.total (·.linesTotal) (methods.map (Method.covered file)) ≤ file.executable.length ∧
      Methods.total (·.linesHit) (methods.map (Method.covered file)) ≤ file.hit.length := by
  intro methods
  have hrange : ∀ m ∈ methods, 1 ≤ m.startLine ∧ m.startLine ≤ m.endLine :=
    fun m hm => h.startLine_le_endLine_of_mem hm
  have hascend : methods.Pairwise fun m m' => m.endLine < m'.startLine := h.pairwise_methods hapart
  have hdisjoint : methods.Pairwise fun m m' =>
      ∀ line, ¬ (m.containsLine line ∧ m'.containsLine line) := by
    refine hascend.imp fun hlt line ⟨hline, hline'⟩ => ?_
    simp only [Method.containsLine, Bool.and_eq_true, decide_eq_true_eq] at hline hline'
    omega
  refine ⟨hrange, hascend.imp_of_mem fun hm hm' hlt => ?_, hdisjoint, fun file => ⟨?_, ?_⟩⟩
  · have hm := (hrange _ hm).2
    have hm' := (hrange _ hm').2
    omega
  · rw [Methods.total_eq, List.map_map]
    calc (methods.map fun m => (m.covered file).linesTotal).sum
        = (methods.map fun m => file.executable.countP m.containsLine).sum := by
          simp only [Method.linesTotal_covered]
      _ ≤ file.executable.length := Methods.sum_countP_le _ hdisjoint
  · rw [Methods.total_eq, List.map_map]
    calc (methods.map fun m => (m.covered file).linesHit).sum
        ≤ (methods.map fun m => file.hit.countP m.containsLine).sum :=
          List.sum_le_sum fun m _ => Method.linesHit_covered_le file m
      _ ≤ file.hit.length := Methods.sum_countP_le _ hdisjoint

end

/-- A method of a class that ends before the first character of a row, and a function on that row. -/
theorem methods_share_no_line_of_column_zero :
    let function (name : String) (start block stop : Point) : SyntaxTree :=
      node { kind := "function_definition", start, stop }
        [node { kind := "identifier", field := some "name", start, stop := start, text := name } [],
          node { kind := "block", field := some "body", start := block, stop } []]
    let t := node { kind := "module", stop := ⟨4, 0⟩ }
      [node { kind := "class_definition", stop := ⟨3, 0⟩ }
          [node { kind := "identifier", field := some "name", text := "A" } [],
            node { kind := "block", field := some "body", start := ⟨1, 4⟩, stop := ⟨3, 0⟩ }
              [function "f" ⟨1, 4⟩ ⟨2, 8⟩ ⟨3, 0⟩]],
        function "g" ⟨3, 0⟩ ⟨3, 9⟩ ⟨3, 13⟩]
    let methods : List (Method ℚ) := t.methods
    let file : FileCoverage ℚ := { executable := [1, 2, 3, 4], hit := [1, 2, 4] }
    t.LaidOut ∧ t.FunctionsApart ∧
    methods.map (fun m => (m.startLine, m.endLine)) = [(2, 3), (4, 4)] ∧
    methods.Pairwise (fun m m' => ∀ line, ¬ (m.containsLine line ∧ m'.containsLine line)) ∧
    Methods.total (·.linesTotal) (methods.map (Method.covered file)) ≤ file.executable.length ∧
    Methods.total (·.linesHit) (methods.map (Method.covered file)) ≤ file.hit.length := by
  intro function t methods file
  have h : t.LaidOut := ⟨by decide +kernel, by decide +kernel, by decide +kernel⟩
  have hlines : ∀ o ∈ t.occurrences, ∀ o' ∈ t.occurrences, o.node.role = .function →
      o'.node.role = .function → ¬ o.Holds o' → ¬ o'.Holds o →
      o.node.endLine < o'.node.startLine ∨ o'.node.endLine < o.node.startLine := by
    decide +kernel
  have hapart : t.FunctionsApart := by
    intro o ho o' ho' hfunction hfunction' hout hout' row ⟨hrow, hrow'⟩
    have hline := hlines o ho o' ho' hfunction hfunction' hout hout'
    rw [occupies_iff] at hrow hrow'
    omega
  obtain ⟨-, -, hdisjoint, hcounts⟩ := methods_share_no_line (α := ℚ) t h hapart
  exact ⟨h, hapart, by decide +kernel, hdisjoint, hcounts file⟩

end SyntaxTree

end Python

end RefactorAudit

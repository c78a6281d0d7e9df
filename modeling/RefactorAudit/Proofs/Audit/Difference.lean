-- SUMMARY: A difference is the patch that leads from the names of one snapshot to those of the other.
import RefactorAudit.Audit.Diff
import RefactorAudit.Proofs.Text.ByteOrder
import Mathlib.Data.Finset.SDiff

/-!
# Differences as patches

A patch between two sets of names lists what only one of them has. There is one such list for either
side, so all that is said here about the difference of two snapshots follows from its being a patch.
-/

namespace RefactorAudit

open Text (AscendByBytes ascendByBytes_iff)

/-! ## Patches -/

namespace Diff

variable {d other : Diff} {before between after : Finset String}

/-- What only one of two sets of names has, each list in the order of bytes. -/
structure IsPatch (d : Diff) (before after : Finset String) : Prop where
  missing_ascend : AscendByBytes d.missing
  added_ascend : AscendByBytes d.added
  mem_missing : ∀ n, n ∈ d.missing ↔ n ∈ before ∧ n ∉ after
  mem_added : ∀ n, n ∈ d.added ↔ n ∈ after ∧ n ∉ before

/-- The names after a change. -/
def apply (d : Diff) (names : Finset String) : Finset String :=
  names \ d.missing.toFinset ∪ d.added.toFinset

/-- The change the other way round. -/
def swap (d : Diff) : Diff where
  missing := d.added
  added := d.missing

namespace IsPatch

/-- Between two sets there is one patch. -/
theorem unique (h : d.IsPatch before after) (h' : other.IsPatch before after) : d = other := by
  have hmissing : d.missing = other.missing := by
    apply (ascendByBytes_iff.1 h.missing_ascend).ext (ascendByBytes_iff.1 h'.missing_ascend)
    intro n
    simp [h.mem_missing, h'.mem_missing]
  have hadded : d.added = other.added := by
    apply (ascendByBytes_iff.1 h.added_ascend).ext (ascendByBytes_iff.1 h'.added_ascend)
    intro n
    simp [h.mem_added, h'.mem_added]
  cases d
  cases other
  simp_all

theorem swap (h : d.IsPatch before after) : d.swap.IsPatch after before where
  missing_ascend := h.added_ascend
  added_ascend := h.missing_ascend
  mem_missing := h.mem_added
  mem_added := h.mem_missing

theorem apply_eq (h : d.IsPatch before after) : d.apply before = after := by
  ext n
  simp only [Diff.apply, Finset.mem_union, Finset.mem_sdiff, List.mem_toFinset, h.mem_missing,
    h.mem_added]
  by_cases hn : n ∈ before <;> simp [hn]

theorem isEmpty_iff (h : d.IsPatch before after) : d.isEmpty = true ↔ before = after := by
  simp only [isEmpty, Bool.and_eq_true, List.isEmpty_iff, List.eq_nil_iff_forall_not_mem,
    h.mem_missing, h.mem_added, not_and, not_not]
  constructor
  · rintro ⟨hmissing, hadded⟩
    ext n
    exact ⟨hmissing n, hadded n⟩
  · rintro rfl
    simp

end IsPatch

end Diff

/-! ## Differences of snapshots -/

variable {α : Type}

/-- The names of the methods as a set. -/
def Snapshot.nameSet (s : Snapshot α) : Finset String := (s.methods.map (·.name)).toFinset

theorem Snapshot.mem_names {s : Snapshot α} {n : String} : n ∈ s.names ↔ n ∈ s.nameSet := by
  simp [names, nameSet]

namespace Diff

variable {a b c : Snapshot α} {n : String}

theorem sorted_names (s : Snapshot α) : Ascending.Sorted s.names := Ascending.sorted_ofList _

theorem isPatch_between (a b : Snapshot α) : (between a b).IsPatch a.nameSet b.nameSet where
  missing_ascend := ascendByBytes_iff.2 ((sorted_names a).filter _)
  added_ascend := ascendByBytes_iff.2 ((sorted_names b).filter _)
  mem_missing n := by simp [between, Snapshot.mem_names]
  mem_added n := by simp [between, Snapshot.mem_names]

theorem missing_of_missing (h : n ∈ (between a c).missing) :
    n ∈ (between a b).missing ∨ n ∈ (between b c).missing := by
  simp only [(isPatch_between _ _).mem_missing] at h ⊢
  by_cases hn : n ∈ b.nameSet
  · exact .inr ⟨hn, h.2⟩
  · exact .inl ⟨h.1, hn⟩

/-- The difference of two snapshots is the patch that leads from the names of the one to those of
the other, empty just if these are the same. Compared the other way round the two lists are swapped,
and what is lost on a way was lost on one of its parts. -/
theorem between_exact_patch (a b c : Snapshot α) :
    (between a b).IsPatch a.nameSet b.nameSet ∧
    (between a b).apply a.nameSet = b.nameSet ∧
    ((between a b).isEmpty = true ↔ a.nameSet = b.nameSet) ∧
    between b a = (between a b).swap ∧
    ∀ n ∈ (between a c).missing, n ∈ (between a b).missing ∨ n ∈ (between b c).missing := by
  have hpatch := isPatch_between a b
  refine ⟨hpatch, hpatch.apply_eq, hpatch.isEmpty_iff, ?_, fun n hn => missing_of_missing hn⟩
  exact (isPatch_between b a).unique hpatch.swap

end Diff

end RefactorAudit

-- SUMMARY: What the names of the files that a walk finds look like.
import RefactorAudit.FileTree.Walk

/-!
# What a walk finds

A walk lists a file by the names that lead to it from the root of the walk. The names grow on the
way down only, so below a directory there is at least one of them, and of the files that are found
each is of the kind that was asked for.
-/

namespace RefactorAudit.Walk

variable {t : FileTree} {root : String} {kind : FileKind} {exclude : List String}
variable {names found : List String}

mutual

/-- The names of a file go on from those of the node that it is found at. -/
theorem exists_of_mem_filesAt (node : Node) (layers : Layers) (path : String) (names : List String)
    (h : found ∈ filesAt layers path names node) :
    ∃ rest, found = names ++ rest ∧ (node.isDirectory = true → rest ≠ []) :=
  match node with
  | .file _ => by
    rw [filesAt, List.mem_singleton] at h
    exact ⟨[], by rw [h, List.append_nil], fun hdirectory => nomatch hdirectory⟩
  | .directory entries => by
    rw [filesAt] at h
    obtain ⟨rest, hrest, hne⟩ := exists_of_mem_filesIn entries _ path names h
    exact ⟨rest, hrest, fun _ => hne⟩

theorem exists_of_mem_filesIn (entries : List (String × Node)) (layers : Layers) (path : String)
    (names : List String) (h : found ∈ filesIn layers path names entries) :
    ∃ rest, found = names ++ rest ∧ rest ≠ [] :=
  match entries with
  | [] => by
    rw [filesIn] at h
    exact absurd h List.not_mem_nil
  | (name, node) :: others => by
    rw [filesIn] at h
    rcases List.mem_append.1 h with h | h
    · split at h
      · exact absurd h List.not_mem_nil
      · obtain ⟨rest, hrest, -⟩ := exists_of_mem_filesAt node _ _ (names ++ [name]) h
        exact ⟨name :: rest, by rw [hrest, List.append_assoc, List.singleton_append],
          List.cons_ne_nil _ _⟩
    · exact exists_of_mem_filesIn others layers path names h

end

theorem value_run (t : FileTree) (root : String) (kind : FileKind) (exclude : List String) :
    (run t root kind exclude).value =
      (files ⟨root, kind, (exclusions exclude).value⟩ t).value := rfl

/-- What a walk below a directory finds has a name there and is accepted. -/
theorem of_mem_run (hroot : t.isDirectory root) (h : names ∈ (run t root kind exclude).value) :
    names ≠ [] ∧ accepts ⟨root, kind, (exclusions exclude).value⟩ names = true := by
  rw [value_run, files] at h
  unfold FileTree.isDirectory FileTree.node? at hroot
  dsimp only at h
  cases hplace : t.locate root with
  | error refusal => simp [hplace, Except.toOption] at hroot
  | ok place =>
    rw [hplace] at h hroot
    obtain ⟨hfound, haccepts⟩ := List.mem_filter.1 h
    obtain ⟨rest, hrest, hne⟩ := exists_of_mem_filesAt _ _ _ _ hfound
    rw [List.nil_append] at hrest
    exact ⟨hrest ▸ hne (by simpa [Except.toOption] using hroot), haccepts⟩

/-- What a walk finds is written in Python. -/
theorem isSource_of_mem_run (hroot : t.isDirectory root)
    (h : names ∈ (run t root kind exclude).value) :
    Path.isSource (pathOf root names) = true := by
  have haccepts := (of_mem_run hroot h).2
  simp only [accepts, Bool.and_eq_true] at haccepts
  exact haccepts.1.1

end RefactorAudit.Walk

-- SUMMARY: Splitting a text at its separators, and the parts of a path.
import RefactorAudit.Path
import Mathlib.Algebra.GroupWithZero.Nat

/-!
# Parts of paths

A text is split at its first separator, and no piece of it holds one. The parts of a path are names:
they are neither empty nor `.`, and hold no slash. A name in front of a slash is the first part of a
path, and the other parts are those behind the slash.
-/

namespace RefactorAudit

/-! ## Splitting -/

namespace Text

variable {separates : Char → Bool} {cs front : List Char}

theorem split_ne_nil (separates : Char → Bool) (cs : List Char) : split separates cs ≠ [] := by
  cases cs with
  | nil => exact List.cons_ne_nil _ _
  | cons c rest =>
    simp only [split]
    split
    · exact List.cons_ne_nil _ _
    · split <;> exact List.cons_ne_nil _ _

theorem split_cons {c : Char} (cs : List Char) (h : separates c = false) :
    ∃ first others, split separates cs = first :: others ∧
      split separates (c :: cs) = (c :: first) :: others := by
  obtain ⟨first, others, hsplit⟩ := List.exists_cons_of_ne_nil (split_ne_nil separates cs)
  exact ⟨first, others, hsplit, by simp [split, h, hsplit]⟩

theorem split_of_none (h : ∀ c ∈ cs, separates c = false) : split separates cs = [cs] := by
  induction cs with
  | nil => rfl
  | cons c rest ih =>
    obtain ⟨first, others, hrest, hcons⟩ := split_cons rest (h c List.mem_cons_self)
    have heq := ih fun d hd => h d (List.mem_cons_of_mem _ hd)
    rw [hrest, List.cons.injEq] at heq
    rw [hcons, heq.1, heq.2]

/-- A separator ends the pieces of what is in front of it. -/
theorem split_append_cons {c : Char} (hc : separates c = true) (front cs : List Char) :
    split separates (front ++ c :: cs) = split separates front ++ split separates cs := by
  induction front with
  | nil => simp [split, hc]
  | cons d rest ih =>
    cases hd : separates d with
    | true => simp [split, hd, ih]
    | false =>
      obtain ⟨first, others, hrest, hcons⟩ := split_cons rest hd
      obtain ⟨first', others', hrest', hcons'⟩ := split_cons (rest ++ c :: cs) hd
      rw [hrest', hrest, List.cons_append, List.cons.injEq] at ih
      rw [List.cons_append, hcons', hcons, List.cons_append, ih.1, ih.2]

/-- The first separator ends the first piece. -/
theorem split_append {c : Char} (h : ∀ d ∈ front, separates d = false) (hc : separates c = true) :
    split separates (front ++ c :: cs) = front :: split separates cs := by
  rw [split_append_cons hc, split_of_none h]
  rfl

theorem separates_of_mem_split {piece : List Char} (h : piece ∈ split separates cs) {c : Char}
    (hc : c ∈ piece) : separates c = false := by
  induction cs generalizing piece with
  | nil =>
    obtain rfl := List.mem_singleton.1 h
    exact absurd hc List.not_mem_nil
  | cons d rest ih =>
    cases hd : separates d with
    | true =>
      simp only [split, hd, if_true] at h
      rcases List.mem_cons.1 h with rfl | h
      · exact absurd hc List.not_mem_nil
      · exact ih h hc
    | false =>
      obtain ⟨first, others, hrest, hcons⟩ := split_cons rest hd
      rw [hcons] at h
      rcases List.mem_cons.1 h with rfl | h
      · rcases List.mem_cons.1 hc with rfl | hc
        · exact hd
        · exact ih (hrest ▸ List.mem_cons_self) hc
      · exact ih (hrest ▸ List.mem_cons_of_mem _ h) hc

/-- The pieces with the separator between them are the text. -/
theorem intercalate_split (separator : Char) (cs : List Char) :
    [separator].intercalate (split (· = separator) cs) = cs := by
  induction cs with
  | nil => rfl
  | cons c rest ih =>
    obtain ⟨first, others, hrest⟩ :=
      List.exists_cons_of_ne_nil (split_ne_nil (fun c => decide (c = separator)) rest)
    rw [hrest] at ih
    by_cases hc : c = separator
    · simp [split, hc, hrest, List.intercalate_cons_cons, ih]
    · have hcons : split (fun c => decide (c = separator)) (c :: rest) =
          (c :: first) :: others := by
        simp [split, hc, hrest]
      rw [hcons]
      cases others with
      | nil =>
        simpa using ih
      | cons next others =>
        simpa [List.intercalate_cons_cons] using ih

/-- The lengths of the pieces and of the separators between them add up. -/
theorem sum_length_split (separates : Char → Bool) (cs : List Char) :
    ((split separates cs).map (·.length + 1)).sum = cs.length + 1 := by
  induction cs with
  | nil => rfl
  | cons c rest ih =>
    cases hc : separates c with
    | true =>
      simp only [split, hc, if_true, List.map_cons, List.sum_cons, List.length_cons, ih]
      exact Nat.add_comm _ _
    | false =>
      obtain ⟨first, others, hrest, hcons⟩ := split_cons rest hc
      rw [hrest, List.map_cons, List.sum_cons] at ih
      rw [hcons, List.map_cons, List.sum_cons, List.length_cons, List.length_cons]
      omega

end Text

/-! ## Parts -/

namespace Path

/-- A part that names something, without a slash in it. -/
structure IsName (part : List Char) : Prop where
  named : isNamed part = true
  noSlash : ∀ c ∈ part, isSlash c = false

variable {path part : List Char}

theorem isName_of_mem_parts (h : part ∈ parts path) : IsName part := by
  obtain ⟨hmem, hnamed⟩ := List.mem_filter.1 h
  exact ⟨hnamed, fun c hc => Text.separates_of_mem_split hmem hc⟩

theorem isName_iff : IsName part ↔ (isNamed part && part.all fun c => !isSlash c) = true := by
  simp only [Bool.and_eq_true, List.all_eq_true, Bool.not_eq_true']
  exact ⟨fun h => ⟨h.named, h.noSlash⟩, fun h => ⟨h.1, h.2⟩⟩

instance : Decidable (IsName part) := decidable_of_iff _ isName_iff.symm

theorem IsName.ne_nil (h : IsName part) : part ≠ [] := by
  have hnamed := h.named
  simp only [isNamed, Bool.and_eq_true, decide_eq_true_eq] at hnamed
  exact hnamed.1

theorem IsName.parts_eq (h : IsName part) : parts part = [part] := by
  rw [parts, Text.split_of_none h.noSlash]
  simp [h.named]

theorem parts_cons_of_isSlash {c : Char} (h : isSlash c = true) :
    parts (c :: path) = parts path := by
  simp [parts, Text.split, h, isNamed]

theorem parts_append (front path : List Char) :
    parts (front ++ '/' :: path) = parts front ++ parts path := by
  rw [parts, Text.split_append_cons rfl, List.filter_append, parts, parts]

theorem IsName.parts_append (h : IsName part) :
    parts (part ++ '/' :: path) = part :: parts path := by
  rw [Path.parts_append, h.parts_eq]
  rfl

theorem IsName.startsWithSlash_append (h : IsName part) :
    startsWithSlash (part ++ path) = false := by
  obtain ⟨c, rest, rfl⟩ := List.exists_cons_of_ne_nil h.ne_nil
  exact h.noSlash c List.mem_cons_self

end Path

end RefactorAudit

-- SUMMARY: Entities are read back as the characters they stand for.
import RefactorAudit.Coverage.Markup
import Mathlib

/-!
# Entities

Reading replaces the entities kind by kind. Each step undoes one kind of escaping and leaves the
others as they are: no entity is the beginning of another one, and as long as ampersands are escaped
an entity begins at every ampersand. So reading undoes writing, and it does so once.
-/

namespace RefactorAudit

/-! ## Replacing -/

namespace Text

variable {old new front rest : List Char} {c d : Char}

theorem replace_nil : replace old new [] = [] := by rw [replace]

theorem replace_append (h : old ≠ []) :
    replace old new (old ++ rest) = new ++ replace old new rest := by
  obtain ⟨c, tail, rfl⟩ := List.exists_cons_of_ne_nil h
  have hprefix : (c :: tail).isPrefixOf (c :: (tail ++ rest)) = true :=
    List.isPrefixOf_iff_prefix.2 (List.prefix_append _ _)
  rw [List.cons_append, replace, if_pos hprefix]
  simp

theorem replace_cons (h : ¬ old <+: c :: rest) :
    replace old new (c :: rest) = c :: replace old new rest := by
  rw [replace, if_neg fun hprefix => h (List.isPrefixOf_iff_prefix.1 hprefix)]

/-- What does not hold the first character of the old text stays. -/
theorem replace_append_of_not_mem (h : d ∉ front) :
    replace (d :: old) new (front ++ rest) = front ++ replace (d :: old) new rest := by
  induction front with
  | nil => rfl
  | cons c tail ih =>
    have hne : ¬ d :: old <+: c :: (tail ++ rest) := fun hprefix =>
      h ((List.cons_prefix_cons.1 hprefix).1 ▸ List.mem_cons_self)
    rw [List.cons_append, replace_cons hne, ih fun hmem => h (List.mem_cons_of_mem _ hmem)]
    rfl

end Text

/-! ## Escaping with some of the entities -/

namespace Coverage.Markup

/-- What stands for a character when some characters are written as entities. -/
def written (entities : List (Char × String)) (c : Char) : List Char :=
  ((entities.lookup c).map String.toList).getD [c]

/-- Entities that can be read back one kind after the other: each begins with its only ampersand,
none begins another one, and the ampersand itself is escaped to the end. -/
def Separable : List (Char × String) → Prop
  | [] => True
  | (c, entity) :: rest =>
    ((c, entity) :: rest).lookup '&' ≠ none ∧ rest.lookup c = none ∧
    (∃ tail, entity.toList = '&' :: tail) ∧
    (∀ other ∈ rest, (∃ tail, other.2.toList = '&' :: tail ∧ '&' ∉ tail) ∧
      ¬ entity.toList <+: other.2.toList ∧ ¬ other.2.toList <+: entity.toList) ∧
    Separable rest

theorem separable_entities : Separable entities := by
  simp [entities, Separable, List.lookup]

variable {rest : List (Char × String)} {c d : Char} {entity : String}

theorem written_cons_self : written ((c, entity) :: rest) c = entity.toList := by
  simp [written, List.lookup]

theorem written_cons_of_ne (h : d ≠ c) : written ((c, entity) :: rest) d = written rest d := by
  have hne : (d == c) = false := by simpa using h
  simp [written, List.lookup, hne]

theorem written_of_lookup_none (h : rest.lookup c = none) : written rest c = [c] := by
  simp [written, h]

/-- An entity of another kind stays as it is. -/
theorem replace_entity {other : String} (h : Separable ((c, entity) :: rest))
    (hmem : (d, other) ∈ rest) (new more : List Char) :
    Text.replace entity.toList new (other.toList ++ more) =
      other.toList ++ Text.replace entity.toList new more := by
  obtain ⟨-, -, ⟨tail, htail⟩, hothers, -⟩ := h
  obtain ⟨⟨w, hw, hnot⟩, hapart, hapart'⟩ := hothers _ hmem
  have hprefix : ¬ entity.toList <+: '&' :: (w ++ more) := by
    intro hprefix
    rw [← List.cons_append, ← hw] at hprefix
    rcases List.prefix_or_prefix_of_prefix hprefix (List.prefix_append other.toList more) with
      hle | hle
    · exact hapart hle
    · exact hapart' hle
  rw [hw, List.cons_append, Text.replace_cons hprefix, htail,
    Text.replace_append_of_not_mem hnot, List.cons_append]

/-- What is written for a character other than the one to be read stays as it is. -/
theorem replace_written (h : Separable ((c, entity) :: rest)) (hd : d ≠ c) (new more : List Char) :
    Text.replace entity.toList new (written rest d ++ more) =
      written rest d ++ Text.replace entity.toList new more := by
  cases hlookup : rest.lookup d with
  | none =>
    obtain ⟨hamp, -, ⟨tail, htail⟩, -, -⟩ := h
    have hne : d ≠ '&' := by
      rintro rfl
      have hne : ('&' == c) = false := by simpa using hd
      rw [List.lookup, hne] at hamp
      exact hamp hlookup
    rw [written_of_lookup_none hlookup, htail]
    exact Text.replace_append_of_not_mem (by simpa using Ne.symm hne)
  | some other =>
    have hmem : (d, other) ∈ rest := by
      obtain ⟨front, behind, heq, -⟩ := List.lookup_eq_some_iff.1 hlookup
      exact heq ▸ List.mem_append_right _ List.mem_cons_self
    have hwritten : written rest d = other.toList := by simp [written, hlookup]
    rw [hwritten]
    exact replace_entity h hmem new more

/-- Reading one kind of entity undoes the writing of this kind. -/
theorem replace_flatMap_written (h : Separable ((c, entity) :: rest)) (text : List Char) :
    Text.replace entity.toList [c] (text.flatMap (written ((c, entity) :: rest))) =
      text.flatMap (written rest) := by
  induction text with
  | nil => exact Text.replace_nil
  | cons d text ih =>
    rw [List.flatMap_cons, List.flatMap_cons]
    by_cases hd : d = c
    · subst hd
      obtain ⟨-, hfree, ⟨tail, htail⟩, -⟩ := h
      rw [written_cons_self, Text.replace_append (by simp [htail]), ih,
        written_of_lookup_none hfree]
    · rw [written_cons_of_ne hd, replace_written h hd, ih]

/-- Entities are read back once, whatever the text looks like. -/
theorem unescape_escape (text : List Char) : unescape (escape text) = text := by
  suffices h : ∀ some : List (Char × String), Separable some →
      some.foldl (fun text pair => Text.replace pair.2.toList [pair.1] text)
        (text.flatMap (written some)) = text from
    h entities separable_entities
  intro some
  induction some with
  | nil => exact fun _ => List.flatMap_singleton' text
  | cons pair rest ih =>
    obtain ⟨c, entity⟩ := pair
    intro hsome
    simp only [List.foldl_cons]
    rw [replace_flatMap_written hsome]
    exact ih hsome.2.2.2.2

/-- Escaped text holds none of the characters that mean something between tags. -/
theorem not_mem_escape {text : List Char} (hd : d ∈ ['<', '>', '"', '\'']) : d ∉ escape text := by
  intro hmem
  obtain ⟨c, -, hc⟩ := List.mem_flatMap.1 hmem
  change d ∈ written entities c at hc
  cases hlookup : entities.lookup c with
  | none =>
    rw [written_of_lookup_none hlookup, List.mem_singleton] at hc
    have hall : ['<', '>', '"', '\''].all (fun d => (entities.lookup d).isSome) = true := by decide
    have hsome := List.all_eq_true.1 hall d hd
    rw [hc, hlookup] at hsome
    exact nomatch hsome
  | some entity =>
    obtain ⟨front, behind, heq, -⟩ := List.lookup_eq_some_iff.1 hlookup
    have hentity : (c, entity) ∈ entities := heq ▸ List.mem_append_right _ List.mem_cons_self
    have hwritten : written entities c = entity.toList := by simp [written, hlookup]
    rw [hwritten] at hc
    have hall : entities.all (fun pair => ['<', '>', '"', '\''].all fun d =>
        decide (d ∉ pair.2.toList)) = true := by decide
    have hnone := List.all_eq_true.1 (List.all_eq_true.1 hall _ hentity) d hd
    exact of_decide_eq_true hnone hc

end Coverage.Markup

end RefactorAudit

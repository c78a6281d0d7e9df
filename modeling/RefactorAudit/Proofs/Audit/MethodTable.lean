-- SUMMARY: The table of the methods of an entry lists every method once.
import RefactorAudit.Audit.Report
import RefactorAudit.Proofs.Collection.Canonical
import RefactorAudit.Proofs.Path.Parts
import RefactorAudit.Proofs.Text.Digits
import Mathlib.Data.List.Induction

/-!
# Tables of methods

An entry lists its methods by name, and a method whose name is taken with its first line. As long as
no name has an `@` and no two methods of one name begin on the same line, every method gets a name of
its own, so none takes the place of another.
-/

namespace RefactorAudit.Audit

open Json (Value)

variable {α : Type} {methods front : List (Method α)} {m other : Method α} {key : String}

/-- Methods that can be told apart by the names under which they are listed. -/
structure Distinct (methods : List (Method α)) : Prop where
  plain : ∀ m ∈ methods, '@' ∉ m.name.toList
  apart : methods.Pairwise fun a b => ¬ (a.name = b.name ∧ a.startLine = b.startLine)

/-- The name of a method with its first line. -/
def lineName (m : Method α) : String := s!"{m.name}@L{m.startLine}"

theorem listedName_eq {β : Type} (listed : Table β) (m : Method α) :
    listedName listed m = if (listed.get? m.name).isSome then lineName m else m.name := rfl

theorem toList_lineName (m : Method α) :
    (lineName m).toList = m.name.toList ++ '@' :: 'L' :: Nat.toDigits 10 m.startLine := by
  simp [lineName, toString]

theorem lineName_ne_name (h : '@' ∉ other.name.toList) : lineName m ≠ other.name := by
  intro heq
  rw [← heq, toList_lineName] at h
  simp at h

/-- A name with a line tells both, for what is before its `@` is the name. -/
theorem lineName_inj (hm : '@' ∉ m.name.toList) (hother : '@' ∉ other.name.toList)
    (h : lineName m = lineName other) : m.name = other.name ∧ m.startLine = other.startLine := by
  have hplain : ∀ {name : String}, '@' ∉ name.toList →
      ∀ c ∈ name.toList, decide (c = '@') = false := by
    intro name hname c hc
    simpa using fun heq : c = '@' => hname (heq ▸ hc)
  have htext : m.name.toList ++ '@' :: 'L' :: Nat.toDigits 10 m.startLine =
      other.name.toList ++ '@' :: 'L' :: Nat.toDigits 10 other.startLine := by
    rw [← toList_lineName, ← toList_lineName, h]
  have hsplit := congrArg (Text.split (· = '@')) htext
  rw [Text.split_append (hplain hm) (by decide), Text.split_append (hplain hother) (by decide)]
    at hsplit
  have hname : m.name.toList = other.name.toList := (List.cons.inj hsplit).1
  rw [hname, List.append_cancel_left_eq] at htext
  have hline : Nat.toDigits 10 m.startLine = Nat.toDigits 10 other.startLine := by
    simpa using htext
  exact ⟨String.toList_inj.1 hname, Text.toDigits_inj.1 hline⟩

theorem methodTable_concat (front : List (Method α)) (m : Method α) :
    methodTable (front ++ [m]) =
      (methodTable front).put (listedName (methodTable front) m) (methodValue m) := by
  simp only [methodTable, List.foldl_append, List.foldl_cons, List.foldl_nil]

theorem Distinct.init (h : Distinct (front ++ [m])) :
    Distinct front ∧ '@' ∉ m.name.toList ∧
      ∀ other ∈ front, ¬ (other.name = m.name ∧ other.startLine = m.startLine) := by
  obtain ⟨hfront, -, hlast⟩ := List.pairwise_append.1 h.apart
  have hplain : ∀ other ∈ front, '@' ∉ other.name.toList :=
    fun other hother => h.plain other (List.mem_append_left _ hother)
  exact ⟨⟨hplain, hfront⟩, h.plain m (by simp), fun other hother => hlast other hother m (by simp)⟩

/-- Only names of methods, with or without their lines, are listed. -/
theorem exists_of_mem_names (h : key ∈ (methodTable methods).names) :
    ∃ m ∈ methods, key = m.name ∨ key = lineName m := by
  induction methods using List.reverseRecOn with
  | nil => exact nomatch h
  | append_singleton front m ih =>
    rw [methodTable_concat, Table.mem_names_put] at h
    rcases h with rfl | h
    · refine ⟨m, by simp, ?_⟩
      rw [listedName_eq]
      split
      · exact .inr rfl
      · exact .inl rfl
    · obtain ⟨other, hother, hkey⟩ := ih h
      exact ⟨other, List.mem_append_left _ hother, hkey⟩

/-- The name under which a method is listed is not taken. -/
theorem get?_listedName (h : Distinct (front ++ [m])) :
    (methodTable front).get? (listedName (methodTable front) m) = none := by
  obtain ⟨hfront, hm, hapart⟩ := h.init
  rw [listedName_eq]
  split
  · rw [← Option.not_isSome_iff_eq_none, ← Table.mem_names_iff]
    intro hlisted
    obtain ⟨other, hother, hname | hname⟩ := exists_of_mem_names hlisted
    · exact lineName_ne_name (hfront.plain other hother) hname
    · have hsame := lineName_inj hm (hfront.plain other hother) hname
      exact hapart other hother ⟨hsame.1.symm, hsame.2.symm⟩
  · next hfree => exact Option.not_isSome_iff_eq_none.1 hfree

/-- Every method is listed once, with its own figures. -/
theorem methodTable_perm (h : Distinct methods) :
    ((methodTable methods).map (·.2)).Perm (methods.map methodValue) := by
  induction methods using List.reverseRecOn with
  | nil => exact .refl _
  | append_singleton front m ih =>
    rw [methodTable_concat, List.map_append, List.map_singleton]
    have hput : ((methodTable front).put (listedName (methodTable front) m) (methodValue m)).Perm
        ((listedName (methodTable front) m, methodValue m) :: methodTable front) :=
      Table.perm_put (get?_listedName h)
    refine (hput.map (·.2)).trans (.trans ?_ (List.perm_append_singleton _ _).symm)
    exact (ih h.init.1).cons _

end RefactorAudit.Audit

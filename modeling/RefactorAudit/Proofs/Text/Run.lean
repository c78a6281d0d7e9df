-- SUMMARY: The longest stretches of joined characters in a text.
import RefactorAudit.Text.Blank
import Mathlib.Data.List.Basic

/-!
# Runs

Some characters join to words. A piece stands alone in a text if none of them is next to it, and a
run is a piece that consists of them and stands alone. Read from the left, a text gives its runs one
after the other.
-/

namespace RefactorAudit.Text

/-- The piece occurs in the text with no joining character on either side. -/
def StandsAlone (joins : Char → Bool) (piece text : List Char) : Prop :=
  ∃ front rest, text = front ++ (piece ++ rest) ∧ (∀ c ∈ front.getLast?, joins c = false) ∧
    ∀ c ∈ rest.head?, joins c = false

/-- A stretch of joining characters that cannot be made longer. -/
structure IsRun (joins : Char → Bool) (run text : List Char) : Prop where
  ne_nil : run ≠ []
  all_join : ∀ c ∈ run, joins c = true
  alone : StandsAlone joins run text

variable {joins other : Char → Bool} {c : Char} {run front rest text : List Char}

/-- The two neighbours of a piece can be computed. -/
theorem StandsAlone.between (front rest : List Char) (htext : text = front ++ (run ++ rest))
    (hfront : front.getLast?.all (!joins ·) = true) (hrest : rest.head?.all (!joins ·) = true) :
    StandsAlone joins run text := by
  refine ⟨front, rest, htext, fun c hc => ?_, fun c hc => ?_⟩
  · rw [Option.mem_def.1 hc] at hfront
    simpa using hfront
  · rw [Option.mem_def.1 hc] at hrest
    simpa using hrest

/-- What stands alone among many joining characters stands alone among fewer. -/
theorem StandsAlone.mono (h : StandsAlone other run text)
    (hle : ∀ c, joins c = true → other c = true) : StandsAlone joins run text := by
  have hnot : ∀ c, other c = false → joins c = false := by
    intro c hc
    cases hjoins : joins c with
    | false => rfl
    | true => exact absurd (hle c hjoins) (by simp [hc])
  obtain ⟨front, rest, htext, hfront, hrest⟩ := h
  exact ⟨front, rest, htext, fun c hc => hnot c (hfront c hc), fun c hc => hnot c (hrest c hc)⟩

theorem not_isRun_nil : ¬ IsRun joins run [] := by
  intro h
  obtain ⟨front, rest, htext, -, -⟩ := h.alone
  have hrun := (List.append_eq_nil_iff.1 (List.append_eq_nil_iff.1 htext.symm).2).1
  exact h.ne_nil hrun

/-- A character that joins nothing belongs to no run. -/
theorem isRun_cons_iff (hc : joins c = false) :
    IsRun joins run (c :: text) ↔ IsRun joins run text := by
  constructor
  · intro h
    obtain ⟨front, rest, htext, hfront, hrest⟩ := h.alone
    cases front with
    | nil =>
      obtain ⟨d, tail, rfl⟩ := List.exists_cons_of_ne_nil h.ne_nil
      obtain ⟨rfl, -⟩ := List.cons.inj htext
      have hjoins := h.all_join c List.mem_cons_self
      rw [hc] at hjoins
      exact nomatch hjoins
    | cons d front =>
      obtain ⟨rfl, rfl⟩ := List.cons.inj htext
      refine ⟨h.ne_nil, h.all_join, front, rest, rfl, ?_, hrest⟩
      intro e he
      apply hfront
      rw [List.getLast?_cons, he]
      rfl
  · intro h
    obtain ⟨front, rest, rfl, hfront, hrest⟩ := h.alone
    refine ⟨h.ne_nil, h.all_join, c :: front, rest, rfl, ?_, hrest⟩
    intro e he
    rw [List.getLast?_cons] at he
    cases hlast : front.getLast? with
    | none =>
      rw [hlast] at he
      obtain rfl := Option.some.inj he
      exact hc
    | some d =>
      rw [hlast] at he
      exact hfront e (hlast.trans he)

/-- Joining characters in front of one that does not join are the first run. -/
theorem isRun_append_iff (hne : front ≠ []) (hfront : ∀ c ∈ front, joins c = true)
    (hrest : ∀ c ∈ rest.head?, joins c = false) :
    IsRun joins run (front ++ rest) ↔ run = front ∨ IsRun joins run rest := by
  constructor
  · intro h
    obtain ⟨before, after, htext, hbefore, hafter⟩ := h.alone
    rcases List.append_eq_append_iff.1 htext with ⟨more, rfl, hmore⟩ | ⟨more, rfl, hmore⟩
    · refine .inr ⟨h.ne_nil, h.all_join, more, after, hmore, ?_, hafter⟩
      intro c hc
      apply hbefore
      rw [List.getLast?_append, hc]
      rfl
    · -- the character before the run would join, so there is none
      have hnil : before = [] := by
        rcases List.eq_nil_or_concat before with hnil | ⟨start, d, rfl⟩
        · exact hnil
        · have hd := hfront d (by simp)
          rw [hbefore d (by simp)] at hd
          exact nomatch hd
      subst hnil
      rw [List.nil_append] at hfront hne ⊢
      rcases List.append_eq_append_iff.1 hmore with ⟨last, rfl, rfl⟩ | ⟨last, rfl, rfl⟩
      · cases last with
        | nil => exact .inl (List.append_nil run).symm
        | cons d last =>
          have hd := hfront d (by simp)
          rw [hafter d rfl] at hd
          exact nomatch hd
      · cases last with
        | nil => exact .inl (List.append_nil more)
        | cons d last =>
          have hd := h.all_join d (by simp)
          rw [hrest d rfl] at hd
          exact nomatch hd
  · rintro (rfl | h)
    · exact ⟨hne, hfront, [], rest, rfl, fun c hc => (nomatch hc), hrest⟩
    · obtain ⟨before, after, rfl, hbefore, hafter⟩ := h.alone
      refine ⟨h.ne_nil, h.all_join, front ++ before, after, by rw [List.append_assoc], ?_, hafter⟩
      cases before with
      | nil =>
        obtain ⟨d, tail, rfl⟩ := List.exists_cons_of_ne_nil h.ne_nil
        have hd := h.all_join d List.mem_cons_self
        rw [hrest d rfl] at hd
        exact nomatch hd
      | cons d before =>
        intro c hc
        apply hbefore
        rw [List.getLast?_append] at hc
        rw [List.getLast?_cons] at hc ⊢
        exact hc

end RefactorAudit.Text

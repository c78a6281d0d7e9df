-- SUMMARY: Which characters are white space, and which texts trimming leaves alone.
import RefactorAudit.Text.Blank

/-!
# Blanks and trimming

There are few blanks, so what is said about all of them can be tested. Trimming takes characters
away at the ends only, and leaves a text alone just if it neither begins nor ends with a blank.
-/

namespace RefactorAudit.Text

variable {c : Char} {cs front : List Char}

/-! ## Blanks -/

/-- All blanks there are. -/
def blanks : List Char :=
  [' ', '\t', '\n', '\x0b', '\x0c', '\x0d', '\u0085', '\u00a0', '\u1680', '\u2000', '\u2001',
    '\u2002', '\u2003', '\u2004', '\u2005', '\u2006', '\u2007', '\u2008', '\u2009', '\u200a',
    '\u2028', '\u2029', '\u202f', '\u205f', '\u3000']

theorem mem_blanks (h : isBlank c = true) : c ∈ blanks := by
  have hcontrol : ∀ k < 5, Char.ofNat (9 + k) ∈ blanks := by decide +kernel
  have hspace : ∀ k < 11, Char.ofNat (0x2000 + k) ∈ blanks := by decide +kernel
  simp only [isBlank, Bool.or_eq_true, Bool.and_eq_true, decide_eq_true_eq, or_assoc] at h
  rcases h with rfl | ⟨hge, hle⟩ | rfl | rfl | rfl | ⟨hge, hle⟩ | rfl | rfl | rfl | rfl | rfl
  · decide
  · have hge : 9 ≤ c.toNat := hge
    have hle : c.toNat ≤ 13 := hle
    have hc := hcontrol (c.toNat - 9) (by omega)
    rwa [Nat.add_sub_cancel' hge, Char.ofNat_toNat] at hc
  · decide
  · decide
  · decide
  · have hge : 0x2000 ≤ c.toNat := hge
    have hle : c.toNat ≤ 0x200a := hle
    have hc := hspace (c.toNat - 0x2000) (by omega)
    rwa [Nat.add_sub_cancel' hge, Char.ofNat_toNat] at hc
  · decide
  · decide
  · decide
  · decide
  · decide

/-- A test that all blanks pass tells something about every blank. -/
theorem of_isBlank {p : Char → Bool} (hall : blanks.all p = true) (h : isBlank c = true) :
    p c = true :=
  List.all_eq_true.1 hall c (mem_blanks h)

/-- Blanks stand before the digits and letters, or beyond them all. -/
theorem toNat_of_isBlank (h : isBlank c = true) : c.toNat ≤ 32 ∨ 133 ≤ c.toNat := by
  have hp := of_isBlank (p := fun c => c.toNat ≤ 32 || 133 ≤ c.toNat) (by decide +kernel) h
  simpa using hp

/-! ## Trimming -/

theorem trimEnd_sublist (cs : List Char) : (trimEnd cs).Sublist cs := by
  have hdrop := (List.dropWhile_sublist (l := cs.reverse) isBlank).reverse
  rwa [List.reverse_reverse] at hdrop

/-- Trimming only takes characters away. -/
theorem trim_sublist (cs : List Char) : (trim cs).Sublist cs :=
  (trimEnd_sublist _).trans (List.dropWhile_sublist _)

theorem dropWhile_isBlank_eq_iff :
    cs.dropWhile isBlank = cs ↔ ∀ c ∈ cs.head?, isBlank c = false := by
  cases cs with
  | nil => simp
  | cons c rest =>
    cases hc : isBlank c with
    | false => simp [List.dropWhile_cons_of_neg, hc]
    | true =>
      have hne : rest.dropWhile isBlank ≠ c :: rest := by
        intro heq
        have hle := (List.dropWhile_sublist (l := rest) isBlank).length_le
        rw [heq, List.length_cons] at hle
        omega
      rw [List.dropWhile_cons_of_pos hc]
      simp [hne, hc]

/-- A character that is no blank stops the cut from the left. -/
theorem dropWhile_append_cons (h : isBlank c = false) (front cs : List Char) :
    (front ++ c :: cs).dropWhile isBlank = front.dropWhile isBlank ++ c :: cs := by
  induction front with
  | nil => rw [List.nil_append, List.dropWhile_cons_of_neg (by simp [h]), List.dropWhile_nil,
      List.nil_append]
  | cons d rest ih =>
    cases hd : isBlank d with
    | true => rw [List.cons_append, List.dropWhile_cons_of_pos hd, List.dropWhile_cons_of_pos hd, ih]
    | false => simp [List.dropWhile_cons_of_neg, hd]

theorem trimEnd_eq_iff : trimEnd cs = cs ↔ ∀ c ∈ cs.getLast?, isBlank c = false := by
  rw [trimEnd, List.reverse_eq_iff, dropWhile_isBlank_eq_iff, List.head?_reverse]

/-- A text stays as it is just if it neither begins nor ends with a blank. -/
theorem trim_eq_iff :
    trim cs = cs ↔
      (∀ c ∈ cs.head?, isBlank c = false) ∧ ∀ c ∈ cs.getLast?, isBlank c = false := by
  constructor
  · intro h
    have hlength : cs.length ≤ (cs.dropWhile isBlank).length := by
      have hle := (trimEnd_sublist (cs.dropWhile isBlank)).length_le
      rwa [← trim, h] at hle
    have hdrop := (List.dropWhile_sublist isBlank).eq_of_length_le hlength
    rw [trim, hdrop] at h
    exact ⟨dropWhile_isBlank_eq_iff.1 hdrop, trimEnd_eq_iff.1 h⟩
  · rintro ⟨hhead, hlast⟩
    rw [trim, dropWhile_isBlank_eq_iff.2 hhead, trimEnd_eq_iff.2 hlast]

theorem trim_of_no_blank (h : ∀ c ∈ cs, isBlank c = false) : trim cs = cs :=
  trim_eq_iff.2 ⟨fun c hc => h c (List.mem_of_mem_head? hc),
    fun c hc => h c (List.mem_of_mem_getLast? hc)⟩

/-- Texts without blanks at their ends may be joined. -/
theorem trim_append (hfront : trim front = front) (h : trim cs = cs) :
    trim (front ++ cs) = front ++ cs := by
  rw [trim_eq_iff] at hfront h ⊢
  rw [List.head?_append, List.getLast?_append]
  refine ⟨fun c hc => ?_, fun c hc => ?_⟩
  · rcases Option.or_eq_some_iff.1 hc with hc | ⟨-, hc⟩
    · exact hfront.1 c hc
    · exact h.1 c hc
  · rcases Option.or_eq_some_iff.1 hc with hc | ⟨-, hc⟩
    · exact h.2 c hc
    · exact hfront.2 c hc

theorem trimEnd_append_of_blank (h : ∀ c ∈ cs, isBlank c = true) (front : List Char) :
    trimEnd (front ++ cs) = trimEnd front := by
  have hreverse : ∀ c ∈ cs.reverse, isBlank c = true := fun c hc => h c (List.mem_reverse.1 hc)
  rw [trimEnd, List.reverse_append, List.dropWhile_append_of_pos hreverse, ← trimEnd]

theorem trimEnd_append_singleton (h : isBlank c = false) (front : List Char) :
    trimEnd (front ++ [c]) = front ++ [c] := by
  refine trimEnd_eq_iff.2 fun d hd => ?_
  rw [List.getLast?_concat] at hd
  exact Option.some.inj hd ▸ h

end RefactorAudit.Text

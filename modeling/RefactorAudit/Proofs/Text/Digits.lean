-- SUMMARY: Numbers are read back from their decimal digits.
import RefactorAudit.Proofs.Text.Blank
import RefactorAudit.Text.Natural

/-!
# Decimal digits

The digits of a number stand for it, and as long as the number is within the limit a reader of
natural numbers gets it back. No digit is a blank, so trimming leaves them alone.
-/

namespace RefactorAudit.Text

variable {limit start n : Nat} {digits : List Char} {c : Char}

theorem le_ofDigitChars (start : Nat) (digits : List Char) :
    start ≤ Nat.ofDigitChars 10 digits start := by
  induction digits generalizing start with
  | nil => exact Nat.le_of_eq Nat.ofDigitChars_nil.symm
  | cons d rest ih =>
    have hnext := ih (10 * start + (d.toNat - '0'.toNat))
    rw [Nat.ofDigitChars_cons]
    omega

theorem digitsFrom_eq (hdigits : ∀ c ∈ digits, c.isDigit = true)
    (hlimit : Nat.ofDigitChars 10 digits start ≤ limit) :
    digitsFrom limit start digits = .ok (Nat.ofDigitChars 10 digits start) := by
  induction digits generalizing start with
  | nil => rw [digitsFrom, Nat.ofDigitChars_nil]
  | cons d rest ih =>
    have hd := hdigits d List.mem_cons_self
    rw [Nat.ofDigitChars_cons] at hlimit ⊢
    have hvalue : ¬ 10 * start + (d.toNat - '0'.toNat) > limit :=
      Nat.not_lt.2 (Nat.le_trans (le_ofDigitChars _ rest) hlimit)
    simp only [digitsFrom, hd, Bool.not_true, Bool.false_eq_true, if_false, if_neg hvalue]
    exact ih (fun c hc => hdigits c (List.mem_cons_of_mem _ hc)) hlimit

theorem isDigit_toDigits (h : c ∈ Nat.toDigits 10 n) : c.isDigit = true :=
  Nat.isDigit_of_mem_toDigits (by decide) (by decide) h

/-- Different numbers have different digits. -/
theorem toDigits_inj {m n : Nat} : Nat.toDigits 10 m = Nat.toDigits 10 n ↔ m = n := by
  refine ⟨fun h => ?_, fun h => h ▸ rfl⟩
  rw [← Nat.ofDigitChars_ten_toDigits (n := m), h, Nat.ofDigitChars_ten_toDigits]

/-- Only zero begins with a zero. -/
theorem exists_toDigits_eq_cons (hn : 0 < n) :
    ∃ d rest, Nat.toDigits 10 n = d :: rest ∧ d ≠ '0' := by
  induction n using Nat.strongRecOn with
  | ind n ih =>
    by_cases hlt : n < 10
    · have hdigit : ∀ k < 10, 0 < k → k.digitChar ≠ '0' := by decide
      exact ⟨n.digitChar, [], Nat.toDigits_of_lt_base hlt, hdigit n hlt hn⟩
    · obtain ⟨d, rest, hfront, hd⟩ := ih (n / 10) (by omega) (by omega)
      refine ⟨d, rest ++ [(n % 10).digitChar], ?_, hd⟩
      rw [Nat.toDigits_of_base_le (by decide) (Nat.le_of_not_lt hlt), hfront, List.cons_append]

/-- A number within the limit is read back from its digits. -/
theorem natural_toDigits (h : n ≤ limit) : natural limit (Nat.toDigits 10 n) = .ok n := by
  have hread : digitsFrom limit 0 (Nat.toDigits 10 n) = .ok n := by
    rw [digitsFrom_eq (fun c hc => isDigit_toDigits hc) (by rwa [Nat.ofDigitChars_ten_toDigits]),
      Nat.ofDigitChars_ten_toDigits]
  obtain ⟨d, rest, hcons⟩ := List.exists_cons_of_ne_nil (Nat.toDigits_ne_nil (n := n) (b := 10))
  have hplus : d ≠ '+' := by
    rintro rfl
    exact absurd (isDigit_toDigits (n := n) (hcons ▸ List.mem_cons_self)) (by decide)
  rw [hcons] at hread ⊢
  unfold natural
  split <;> simp_all

theorem isBlank_of_isDigit (h : c.isDigit = true) : isBlank c = false := by
  rw [Bool.eq_false_iff]
  intro hblank
  simp only [Char.isDigit, Bool.and_eq_true, decide_eq_true_eq, ge_iff_le] at h
  have hlow : 48 ≤ c.toNat := h.1
  have hhigh : c.toNat ≤ 57 := h.2
  rcases toNat_of_isBlank hblank with h | h <;> omega

theorem trim_toDigits (n : Nat) : trim (Nat.toDigits 10 n) = Nat.toDigits 10 n :=
  trim_of_no_blank fun _ hc => isBlank_of_isDigit (isDigit_toDigits hc)

end RefactorAudit.Text

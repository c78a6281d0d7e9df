-- SUMMARY: Every float has a place of its own, and greater values have greater places.
import RefactorAudit.Decimal.Binary
import RefactorAudit.Severity.Ranking
import Mathlib.Algebra.Order.Field.Rat
import Mathlib.Algebra.Order.Ring.Cast
import Mathlib.Order.Monotone.Basic
import Mathlib.Tactic.Ring

/-!
# Places of floats

Without its sign, a float is a multiple of the least positive one, and this multiple grows with the
bits: from the last fraction of an exponent it goes on to the first one of the next. So the total
order, which compares bits, is the order of the exact values.
-/

namespace RefactorAudit

variable {x y : Float}

/-! ## Values as multiples -/

namespace Decimal

/-- How many times the least positive float fits into the one of this exponent and fraction. -/
def multiple : Nat → Nat → Nat
  | 0, fraction => fraction
  | power + 1, fraction => (fraction + 2 ^ 52) * 2 ^ power

theorem multiple_le_succ (bits : Nat) :
    multiple (bits / 2 ^ 52) (bits % 2 ^ 52) ≤
      multiple ((bits + 1) / 2 ^ 52) ((bits + 1) % 2 ^ 52) := by
  by_cases hlast : bits % 2 ^ 52 + 1 = 2 ^ 52
  · have hpower : (bits + 1) / 2 ^ 52 = bits / 2 ^ 52 + 1 := by omega
    have hfraction : (bits + 1) % 2 ^ 52 = 0 := by omega
    rw [hpower, hfraction]
    cases bits / 2 ^ 52 with
    | zero =>
      simp only [multiple]
      omega
    | succ power =>
      -- the first multiple of an exponent is twice that of the exponent before
      simp only [multiple, Nat.pow_succ 2 power, ← Nat.mul_assoc]
      rw [Nat.mul_right_comm]
      exact Nat.mul_le_mul_right _ (by omega)
  · have hpower : (bits + 1) / 2 ^ 52 = bits / 2 ^ 52 := by omega
    have hfraction : (bits + 1) % 2 ^ 52 = bits % 2 ^ 52 + 1 := by omega
    rw [hpower, hfraction]
    cases bits / 2 ^ 52 with
    | zero => exact Nat.le_succ _
    | succ power => exact Nat.mul_le_mul_right _ (by omega)

theorem monotone_multiple : Monotone fun bits => multiple (bits / 2 ^ 52) (bits % 2 ^ 52) :=
  monotone_nat_of_le_succ multiple_le_succ

/-- The multiple that a finite float is, with its sign. -/
def signedMultiple (x : Float) : Int :=
  let bits := x.toBits.toNat
  (if bits / 2 ^ 63 = 1 then -1 else 1) * multiple (bits / 2 ^ 52 % 2 ^ 11) (bits % 2 ^ 52)

theorem Binary.toRat_eq (b : Binary) :
    b.toRat = (if b.negative then -1 else 1) * b.mantissa * 2 ^ b.exponent := by
  obtain ⟨negative, mantissa, exponent⟩ := b
  cases exponent with
  | ofNat n => cases negative <;> simp [toRat, ratio, Rat.mkRat_eq_div]
  | negSucc n =>
    cases negative <;> simp [toRat, ratio, Rat.mkRat_eq_div, div_eq_mul_inv, zpow_negSucc]

theorem zpow_mul_unit (power : Nat) :
    (2 : ℚ) ^ ((power + 1 : Nat) - 1075 : Int) * 2 ^ 1074 = 2 ^ power := by
  rw [← zpow_natCast, ← zpow_natCast, ← zpow_add₀ two_ne_zero]
  congr 1
  push_cast
  ring

theorem exactValue_mul {b : Binary} (h : Reading.ofFloat x = .finite b) :
    exactValue x * 2 ^ 1074 = signedMultiple x := by
  simp only [exactValue, h, Binary.toRat_eq, signedMultiple]
  simp only [Reading.ofFloat, Reading.ofBits, Nat.pow_eq] at h
  generalize x.toBits.toNat / 2 ^ 63 = half at *
  generalize x.toBits.toNat / 2 ^ 52 % 2 ^ 11 = power at *
  generalize x.toBits.toNat % 2 ^ 52 = fraction at *
  cases power with
  | zero =>
    cases h
    simp only [multiple, mul_assoc, ← zpow_natCast]
    by_cases hsign : half = 1 <;> simp [hsign]
  | succ power =>
    split at h
    · split at h <;> exact nomatch h
    · cases h
      simp only [multiple, mul_assoc]
      rw [zpow_mul_unit]
      by_cases hsign : half = 1 <;> simp [hsign]

end Decimal

/-! ## Places -/

namespace Severity

open Decimal (Binary Reading exactValue multiple monotone_multiple signedMultiple)

theorem toBits_inj : x.toBits = y.toBits ↔ x = y := by
  constructor
  · intro h
    obtain ⟨⟨bits, _⟩⟩ := x
    obtain ⟨⟨bits', _⟩⟩ := y
    have hbits : bits = bits' := h
    subst hbits
    rfl
  · rintro rfl
    rfl

theorem place_inj : place x = place y ↔ x = y := by
  constructor
  · intro h
    have hx := x.toBits.toNat_lt
    have hy := y.toBits.toNat_lt
    simp only [place, Nat.pow_eq] at h
    apply toBits_inj.1
    apply UInt64.toNat_inj.1
    split at h <;> split at h <;> omega
  · rintro rfl
    rfl

theorem signedMultiple_le (h : place x ≤ place y) : signedMultiple x ≤ signedMultiple y := by
  have hx := x.toBits.toNat_lt
  have hy := y.toBits.toNat_lt
  simp only [place, signedMultiple, Nat.pow_eq] at h ⊢
  generalize x.toBits.toNat = m at *
  generalize y.toBits.toNat = n at *
  have hlift := @monotone_multiple (m % 2 ^ 63) (n % 2 ^ 63)
  have hdrop := @monotone_multiple (n % 2 ^ 63) (m % 2 ^ 63)
  have hpower : ∀ k, k % 2 ^ 63 / 2 ^ 52 = k / 2 ^ 52 % 2 ^ 11 := by omega
  have hfraction : ∀ k, k % 2 ^ 63 % 2 ^ 52 = k % 2 ^ 52 := by omega
  simp only [hpower, hfraction] at hlift hdrop
  generalize multiple (m / 2 ^ 52 % 2 ^ 11) (m % 2 ^ 52) = a at *
  generalize multiple (n / 2 ^ 52 % 2 ^ 11) (n % 2 ^ 52) = b at *
  -- one case for each pair of signs; two negative floats are in the reverse order of their bits
  split at h <;> split at h <;> split <;> split <;> omega

/-- Of two finite floats, the one of the greater place has no smaller value. -/
theorem exactValue_le {a b : Binary} (hx : Reading.ofFloat x = .finite a)
    (hy : Reading.ofFloat y = .finite b) (h : place x ≤ place y) : exactValue x ≤ exactValue y := by
  have hunit : (0 : ℚ) < 2 ^ 1074 := pow_pos two_pos _
  apply le_of_mul_le_mul_right _ hunit
  rw [Decimal.exactValue_mul hx, Decimal.exactValue_mul hy]
  exact Int.cast_le.2 (signedMultiple_le h)

end Severity

end RefactorAudit

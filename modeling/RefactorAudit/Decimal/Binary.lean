-- SUMMARY: The exact value of a float.

/-!
# Binary values

A finite float is a whole number times a power of two. The exact value is read off its bits; all
decimal text is made from it by whole-number arithmetic.
-/

namespace RefactorAudit.Decimal

/-- The value `± mantissa · 2 ^ exponent`. -/
structure Binary where
  negative : Bool
  mantissa : Nat
  exponent : Int
  deriving DecidableEq, Repr, Inhabited

/-- What a float stands for. -/
inductive Reading where
  | finite (value : Binary)
  | infinite (negative : Bool)
  | undefined
  deriving DecidableEq, Repr, Inhabited

/-- Reads a float of 64 bits: a sign, eleven bits of exponent and 52 bits of fraction. -/
def Reading.ofBits (bits : UInt64) : Reading :=
  let n := bits.toNat
  let negative := n / Nat.pow 2 63 = 1
  let power : Nat := n / Nat.pow 2 52 % Nat.pow 2 11
  let fraction : Nat := n % Nat.pow 2 52
  if power = 2047 then if fraction = 0 then .infinite negative else .undefined
  else if power = 0 then .finite ⟨negative, fraction, -1074⟩
  else .finite ⟨negative, fraction + Nat.pow 2 52, (power : Int) - 1075⟩

def Reading.ofFloat (x : Float) : Reading := .ofBits x.toBits

namespace Binary

/-- The absolute value as a fraction. -/
def ratio (b : Binary) : Nat × Nat :=
  if b.exponent ≥ 0 then (b.mantissa * Nat.pow 2 b.exponent.toNat, 1)
  else (b.mantissa, Nat.pow 2 (-b.exponent).toNat)

/-- The exact value. -/
def toRat (b : Binary) : Rat :=
  let (num, den) := b.ratio
  mkRat (if b.negative then -(num : Int) else num) den

end Binary

/-- The exact value of a finite float; zero for the others. -/
def exactValue (x : Float) : Rat :=
  match Reading.ofFloat x with
  | .finite b => b.toRat
  | _ => 0

end RefactorAudit.Decimal

-- SUMMARY: The arithmetic of averages, ratios and scores.
import RefactorAudit.Json.Value

/-!
# Figures

Averages, coverage ratios and scores are computed with the four operations on some kind of number,
from sums of counts. The program computes with floats, and its counts have 64 bits. Read with
rational numbers, the same definitions give the exact figures of exact sums. Between the two are the
exact figures of the sums that the program has.
-/

namespace RefactorAudit

/-- A kind of number to compute figures with. -/
class Figure (α : Type) extends Add α, Sub α, Mul α, Div α where
  ofInt : Int → α
  less : α → α → Bool
  /-- The nearest whole number from zero to 2 ^ 64 - 1; a half is rounded up. -/
  toCount : α → Nat
  /-- What is kept of a sum of counts. -/
  keep (α) : Nat → Nat

namespace Figure

instance : Figure Float where
  ofInt := Float.ofInt
  less a b := a < b
  toCount x := if x > 0 then x.round.toUInt64.toNat else 0
  keep n := n % Nat.pow 2 64

instance : Figure Rat where
  ofInt n := n
  less a b := decide (a < b)
  toCount x := min ((x + 1 / 2).floor.toNat) (Nat.pow 2 64 - 1)
  keep n := n

/-- Rational numbers in the place of floats, with sums of counts as the program has them. -/
@[reducible] def kept : Figure Rat := { (inferInstance : Figure Rat) with keep := keep Float }

variable {α : Type} [Figure α]

def ofNat (n : Nat) : α := ofInt n

/-- The value of a number in a document. -/
def ofNumber : Json.Number α → α
  | .int n => ofInt n
  | .float x => x

/-- The sum from the left; zero for no summands. -/
def sum : List α → α
  | [] => ofNat 0
  | x :: rest => rest.foldl (· + ·) x

/-- The arithmetic mean of a list that is not empty. -/
def mean (xs : List α) : α := sum xs / ofNat xs.length

/-- A share in percent. -/
def percent (part whole : Nat) : α := ofNat part / ofNat whole * ofNat 100

/-- The nearest number between two bounds. -/
def clamp (low high x : α) : α := if less x low then low else if less high x then high else x

end Figure

end RefactorAudit

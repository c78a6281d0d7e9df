-- SUMMARY: Sets of characters given as sorted ranges of code points.

/-!
# Ranges of characters

A property of characters that a standard defines by a table is kept as the ranges of code points
that have it, in ascending order, and is decided by halving.
-/

namespace RefactorAudit.Text

/-- Closed ranges of code points, ascending and apart. -/
abbrev Ranges := Array (Nat × Nat)

namespace Ranges

/-- Searches the ranges with index in `[lo, hi)`; each step halves them, and `fuel` counts steps. -/
def search (r : Ranges) (n : Nat) : Nat → Nat → Nat → Bool
  | 0, _, _ => false
  | fuel + 1, lo, hi =>
    if lo ≥ hi then false else
    let mid := (lo + hi) / 2
    match r[mid]? with
    | none => false
    | some (first, last) =>
      if n < first then r.search n fuel lo mid
      else if n > last then r.search n fuel (mid + 1) hi
      else true

/-- Whether a character lies in one of the ranges. -/
def has (r : Ranges) (c : Char) : Bool := r.search c.toNat 32 0 r.size

end Ranges

end RefactorAudit.Text

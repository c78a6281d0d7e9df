-- SUMMARY: The float nearest to a decimal.

/-!
# Nearest floats

A decimal is a whole number times a power of ten. Decimals far beyond the floats are settled by
their magnitude, so that no power of ten has to be computed for them.
-/

namespace RefactorAudit.Decimal

/-- The float nearest to `digits · 10 ^ exponent`. -/
def nearest (digits : Nat) (exponent : Int) : Float :=
  if digits = 0 then 0.0
  else
    let magnitude := exponent + ((toString digits).length : Int)
    if magnitude > 310 then 1.0 / 0.0
    else if magnitude < -330 then 0.0
    else if exponent ≥ 0 then Float.ofScientific digits false exponent.toNat
    else Float.ofScientific digits true (-exponent).toNat

end RefactorAudit.Decimal

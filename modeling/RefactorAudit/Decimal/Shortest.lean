-- SUMMARY: The fewest decimal digits that read back to the same float.
import RefactorAudit.Decimal.Binary

/-!
# Shortest digits

Every real number nearer to a float than to its neighbours reads as that float. Among the decimal
numbers in this stretch those with the fewest digits are taken, and of these the nearest. On a grid
of decimal numbers it is enough to look at the two neighbours of the value.
-/

namespace RefactorAudit.Decimal

/-- The positive number `digits · 10 ^ exponent`. -/
structure Digits where
  digits : Nat
  exponent : Int
  deriving DecidableEq, Repr, Inhabited

/-- A positive value with the stretch of numbers that read as it, over one denominator. -/
structure Stretch where
  low : Nat
  value : Nat
  high : Nat
  denominator : Nat
  /-- The ends belong to the stretch. -/
  closed : Bool
  deriving Repr, Inhabited

/-- The stretch of `mantissa · 2 ^ exponent`. Below a power of two the neighbours are nearer, unless
the exponent cannot be lowered. -/
def Stretch.of (b : Binary) : Stretch :=
  let narrow := b.mantissa = Nat.pow 2 52 && b.exponent > -1074
  let scale := if b.exponent ≥ 0 then Nat.pow 2 b.exponent.toNat else 1
  let denominator := if b.exponent ≥ 0 then 1 else Nat.pow 2 (-b.exponent).toNat
  { low := (4 * b.mantissa - (if narrow then 1 else 2)) * scale
    value := 4 * b.mantissa * scale
    high := (4 * b.mantissa + 2) * scale
    denominator := 4 * denominator
    closed := b.mantissa % 2 = 0 }

/-- Multiplies a fraction by a power of ten. -/
def scaled (num den : Nat) (power : Int) : Nat × Nat :=
  if power ≥ 0 then (num * Nat.pow 10 power.toNat, den)
  else (num, den * Nat.pow 10 (-power).toNat)

/-- Whether `c · 10 ^ power` lies in the stretch. -/
def Stretch.contains (s : Stretch) (c : Nat) (power : Int) : Bool :=
  let (c, den) := scaled c 1 power
  let (low, high, x) := (s.low * den, s.high * den, c * s.denominator)
  if s.closed then low ≤ x && x ≤ high else low < x && x < high

/-- The distance of `c · 10 ^ power` from the value, over a denominator that depends on the power
alone. -/
def Stretch.distance (s : Stretch) (c : Nat) (power : Int) : Nat :=
  let (c, den) := scaled c 1 power
  let x := c * s.denominator
  let v := s.value * den
  if x ≥ v then x - v else v - x

/-- The number on a decimal grid that lies in the stretch, the nearer one of two. -/
def Stretch.onGrid (s : Stretch) (power : Int) : Option Digits :=
  let (num, den) := scaled s.value s.denominator (-power)
  let down := num / den
  let up := down + 1
  match s.contains down power && down > 0, s.contains up power with
  | true, true =>
    if s.distance up power < s.distance down power
        || (s.distance up power = s.distance down power && down % 2 = 1) then some ⟨up, power⟩
    else some ⟨down, power⟩
  | true, false => some ⟨down, power⟩
  | false, true => some ⟨up, power⟩
  | false, false => none

/-- How many digits stand before the point of a fraction that is at least one. -/
def digitCount : Nat → Nat → Nat → Nat
  | 0, _, _ => 0
  | fuel + 1, num, den => if num < den then 0 else 1 + digitCount fuel num (den * 10)

/-- How many zeros follow the point of a fraction below one. -/
def zeroCount : Nat → Nat → Nat → Nat
  | 0, _, _ => 0
  | fuel + 1, num, den =>
    if num * 10 ≥ den then 0 else 1 + zeroCount fuel (num * 10) den

/-- The power of ten just above the value: `10 ^ (magnitude - 1) ≤ value < 10 ^ magnitude`. -/
def Stretch.magnitude (s : Stretch) : Int :=
  if s.value ≥ s.denominator then digitCount 400 s.value s.denominator
  else -(zeroCount 400 s.value s.denominator : Int)

/-- The shortest digits of a positive binary value. -/
def shortest (b : Binary) : Digits :=
  let s := Stretch.of b
  let top := s.magnitude
  ((List.range 18).findSome? fun (n : Nat) => s.onGrid (top - (n + 1 : Nat))).getD ⟨s.value, 0⟩

end RefactorAudit.Decimal

-- SUMMARY: How digits are written as text.
import RefactorAudit.Decimal.Shortest

/-!
# Layout of decimal text

The digits of a number say nothing about point and exponent. A layout says where positional notation
ends and how the rest is spelled; each format that the program writes has one.
-/

namespace RefactorAudit.Decimal

/-- How a number is spelled. -/
structure Layout where
  /-- Values from `10 ^ positionalLow` on are written without exponent. -/
  positionalLow : Option Int
  /-- Values from `10 ^ positionalHigh` on are written with an exponent. -/
  positionalHigh : Option Int
  /-- What follows a whole number. -/
  wholeMark : String
  /-- The sign of an exponent that is not negative. -/
  exponentPlus : String
  infinite : String
  undefined : String

/-- Numbers in JSON text: the point is always written, values from `10 ^ 16` on and below `10 ^ -5`
have an exponent with its sign. -/
def jsonLayout : Layout :=
  { positionalLow := some (-5), positionalHigh := some 16, wholeMark := ".0"
    exponentPlus := "+", infinite := "null", undefined := "null" }

/-- Numbers in messages: never an exponent, no point after a whole number. -/
def messageLayout : Layout :=
  { positionalLow := none, positionalHigh := none, wholeMark := ""
    exponentPlus := "", infinite := "inf", undefined := "NaN" }

private def zeros (n : Nat) : String := String.ofList (List.replicate n '0')

/-- Digits without an exponent. -/
def positional (mark : String) (d : Digits) : String :=
  let text := toString d.digits
  if d.exponent ≥ 0 then text ++ zeros d.exponent.toNat ++ mark
  else
    let places := (-d.exponent).toNat
    if text.length > places then
      let cs := text.toList
      let whole := cs.length - places
      String.ofList (cs.take whole) ++ "." ++ String.ofList (cs.drop whole)
    else "0." ++ zeros (places - text.length) ++ text

/-- Digits with an exponent: one digit before the point. -/
def scientific (plus : String) (d : Digits) : String :=
  let cs := (toString d.digits).toList
  let power := d.exponent + (cs.length : Int) - 1
  let body := match cs with
    | [] => ""
    | [c] => String.singleton c
    | c :: rest => String.singleton c ++ "." ++ String.ofList rest
  body ++ "e" ++ (if power ≥ 0 then plus ++ toString power else toString power)

/-- Drops the zeros at the end of the digits. -/
def Digits.trim : Nat → Digits → Digits
  | 0, d => d
  | fuel + 1, d =>
    if d.digits % 10 = 0 && d.digits ≠ 0 then (⟨d.digits / 10, d.exponent + 1⟩ : Digits).trim fuel
    else d

/-- The text of positive digits. -/
def Layout.digits (l : Layout) (d : Digits) : String :=
  let d := d.trim 400
  let power := d.exponent + ((toString d.digits).length : Int) - 1
  let tooSmall := l.positionalLow.elim false (power < ·)
  let tooLarge := l.positionalHigh.elim false (power ≥ ·)
  if tooSmall || tooLarge then scientific l.exponentPlus d else positional l.wholeMark d

/-- The text of a float. -/
def Layout.float (l : Layout) (x : Float) : String :=
  match Reading.ofFloat x with
  | .undefined => l.undefined
  | .infinite negative =>
    if negative && l.infinite = "inf" then "-" ++ l.infinite else l.infinite
  | .finite b =>
    let sign := if b.negative then "-" else ""
    if b.mantissa = 0 then sign ++ "0" ++ l.wholeMark
    else sign ++ l.digits (shortest b)

/-! ## Fixed places -/

/-- The quotient rounded to the nearest whole number, a half to the even one. -/
def roundDiv (num den : Nat) : Nat :=
  let q := num / den
  let r := num % den
  if 2 * r > den || (2 * r = den && q % 2 = 1) then q + 1 else q

/-- The text of a float with a fixed number of places after the point. -/
def fixed (places : Nat) (x : Float) : String :=
  match Reading.ofFloat x with
  | .undefined => "NaN"
  | .infinite negative => if negative then "-inf" else "inf"
  | .finite b =>
    let (num, den) := b.ratio
    let n := roundDiv (num * Nat.pow 10 places) den
    let sign := if b.negative then "-" else ""
    let cs := (toString n).toList
    let cs := List.replicate (places + 1 - cs.length) '0' ++ cs
    let whole := cs.length - places
    sign ++ String.ofList (cs.take whole) ++
      (if places = 0 then "" else "." ++ String.ofList (cs.drop whole))

end RefactorAudit.Decimal

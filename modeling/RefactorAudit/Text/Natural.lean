-- SUMMARY: Whole numbers read from text, up to a limit.

/-!
# Natural numbers in text

A number is written with decimal digits; a plus may stand before them. Digits are read from the
left, so of two faults the one further left counts.
-/

namespace RefactorAudit.Text

/-- Why a text is not a number. -/
inductive NaturalFault where
  | noDigit
  | notDigit
  | tooLarge
  deriving DecidableEq, Repr, Inhabited

def NaturalFault.message : NaturalFault → String
  | noDigit => "cannot parse integer from empty string"
  | notDigit => "invalid digit found in string"
  | tooLarge => "number too large to fit in target type"

/-- Goes on reading digits behind a number. -/
def digitsFrom (limit : Nat) (value : Nat) : List Char → Except NaturalFault Nat
  | [] => .ok value
  | c :: rest =>
    if !c.isDigit then .error .notDigit
    else
      let value := 10 * value + (c.toNat - '0'.toNat)
      if value > limit then .error .tooLarge else digitsFrom limit value rest

/-- Reads a number from zero up to a limit. -/
def natural (limit : Nat) (text : List Char) : Except NaturalFault Nat :=
  match text with
  | [] => .error .noDigit
  | ['+'] => .error .notDigit
  | '+' :: rest => digitsFrom limit 0 rest
  | text => digitsFrom limit 0 text

/-- The largest number of 32 bits. -/
def limit32 : Nat := Nat.pow 2 32 - 1

/-- The largest number of 64 bits. -/
def limit64 : Nat := Nat.pow 2 64 - 1

end RefactorAudit.Text

-- SUMMARY: White space, and texts without it at their ends.

/-!
# Blanks

The white space of Unicode, and what remains of a text when the white space at its ends is cut off.
-/

namespace RefactorAudit.Text

/-- White space. -/
def isBlank (c : Char) : Bool :=
  c = ' ' || ('\t' ≤ c && c ≤ '\x0d') || c = '\u0085' || c = '\u00a0' || c = '\u1680'
    || ('\u2000' ≤ c && c ≤ '\u200a') || c = '\u2028' || c = '\u2029' || c = '\u202f'
    || c = '\u205f' || c = '\u3000'

/-- A text without the blanks at its end. -/
def trimEnd (cs : List Char) : List Char := (cs.reverse.dropWhile isBlank).reverse

/-- A text without the blanks at its ends. -/
def trim (cs : List Char) : List Char := trimEnd (cs.dropWhile isBlank)

/-- The parts of a text between the characters that satisfy a test; one part more than there are
such characters. -/
def split (separates : Char → Bool) : List Char → List (List Char)
  | [] => [[]]
  | c :: rest =>
    if separates c then [] :: split separates rest
    else
      match split separates rest with
      | first :: others => (c :: first) :: others
      | [] => [[c]]

/-- What follows a given beginning. -/
def dropStart? : List Char → List Char → Option (List Char)
  | [], cs => some cs
  | _ :: _, [] => none
  | c :: start, d :: cs => if c = d then dropStart? start cs else none

/-- Replaces every occurrence of a text, from the left. -/
def replace (old new : List Char) : List Char → List Char
  | [] => []
  | c :: rest =>
    if old.isPrefixOf (c :: rest) then new ++ replace old new (rest.drop (old.length - 1))
    else c :: replace old new rest
  termination_by cs => cs.length
  decreasing_by all_goals simp only [List.length_drop, List.length_cons]; omega

theorem dropStart?_eq_some_iff {start cs rest : List Char} :
    dropStart? start cs = some rest ↔ cs = start ++ rest := by
  induction start generalizing cs with
  | nil => simp [dropStart?]
  | cons c start ih =>
    cases cs with
    | nil => simp [dropStart?]
    | cons d cs =>
      simp only [dropStart?, List.cons_append, List.cons.injEq]
      split
      · next heq => simp [heq, ih]
      · next hne => simp [Ne.symm hne]

end RefactorAudit.Text

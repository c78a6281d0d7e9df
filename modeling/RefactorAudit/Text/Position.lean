-- SUMMARY: Places in a text.

/-!
# Positions

A place between two characters of a text, counted four ways at once: in characters and in bytes
from the start, in line feeds, and in bytes from the last line feed.
-/

namespace RefactorAudit.Text

/-- A place in a text. -/
structure Position where
  /-- Characters before it. -/
  index : Nat := 0
  /-- Bytes before it. -/
  offset : Nat := 0
  /-- Line feeds before it. -/
  row : Nat := 0
  /-- Bytes since the last line feed. -/
  column : Nat := 0
  deriving DecidableEq, Repr, Inhabited

namespace Position

/-- The place behind a character that stands at a place. -/
def past (p : Position) (c : Char) : Position :=
  if c = '\n' then ⟨p.index + 1, p.offset + 1, p.row + 1, 0⟩
  else ⟨p.index + 1, p.offset + c.utf8Size, p.row, p.column + c.utf8Size⟩

end Position

end RefactorAudit.Text

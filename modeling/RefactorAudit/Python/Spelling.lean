-- SUMMARY: How the tokens of Python are written.
import RefactorAudit.Grammar.Pattern
import RefactorAudit.Text.Identifier

/-!
# Spellings

The texts of names, numbers, comments and escapes as patterns. Every ASCII character is a letter of
its own. The other characters fall into four classes: those that begin names, those that only go on
with names, marks without width that count as blanks, and the rest.

A null character ends a comment and belongs to no other token than a joined line.
-/

namespace RefactorAudit.Python

open RefactorAudit.Grammar (Pattern Spelling)
open RefactorAudit.Text (isIdentifierStart isIdentifierContinue)

namespace Letter

def nameStart : Nat := 128
def nameContinue : Nat := 129
def blankMark : Nat := 130
def other : Nat := 131

/-- All letters are below this number. -/
def count : Nat := 132

/-- The letter of a character. -/
def of (c : Char) : Nat :=
  if c.toNat < 128 then c.toNat
  else if c = '\ufeff' || c = '\u2060' || c = '\u200b' then blankMark
  else if isIdentifierStart c then nameStart
  else if isIdentifierContinue c then nameContinue
  else other

/-- The letters between two ASCII characters, with both. -/
def between (low high : Char) : List Nat := (List.range (high.toNat + 1)).drop low.toNat

def anyOf (text : String) : List Nat := text.toList.map Char.toNat

/-- All letters but some ASCII characters and the null character. -/
def allBut (text : String) : List Nat :=
  (List.range count).filter fun l => l ≠ 0 && !(anyOf text).contains l

/-- The blanks between tokens: the ASCII blanks and three marks without width. -/
def blanks : List Nat := [9, 10, 11, 12, 13, 32, blankMark]

end Letter

open Letter (anyOf between allBut)

/-- A pattern for one text. -/
def literally (text : String) : Pattern := .seq ((anyOf text).map fun l => .oneOf [l])

private def digit : List Nat := between '0' '9'

private def hexDigit : List Nat := digit ++ between 'a' 'f' ++ between 'A' 'F'

/-- Letters, and the underscore. -/
private def nameStarts : List Nat :=
  between 'A' 'Z' ++ [95] ++ between 'a' 'z' ++ [Letter.nameStart]

/-- One or more groups of decimal digits, each with at most one underscore behind it. -/
private def decimals : Pattern :=
  .many (.seq [.many (.oneOf digit), .optional (literally "_")])

/-- A whole number to a base: one or more groups of digits behind the mark of the base, each with at
most one underscore in front of it. -/
private def based (low high : String) (digits : List Nat) : Pattern :=
  .seq [.choice [literally low, literally high],
    .many (.seq [.optional (literally "_"), .many (.oneOf digits)]),
    .optional (.oneOf (anyOf "Ll"))]

private def exponent : Pattern :=
  .seq [.oneOf (anyOf "eE"), .optional (.oneOf (anyOf "+-")), decimals]

namespace Spelling

/-- A token with one text. -/
def word (text : String) : Spelling := { pattern := literally text, weight := 2 }

def name : Spelling where
  pattern := .seq [.oneOf nameStarts, .any (.oneOf (nameStarts ++ digit ++ [Letter.nameContinue]))]

def integer : Spelling where
  pattern := .choice [
    based "0x" "0X" hexDigit, based "0o" "0O" (between '0' '7'), based "0b" "0B" (between '0' '1'),
    .seq [decimals, .optional (.oneOf (anyOf "LljJ"))]]

/-- A number with a point or an exponent. -/
def float : Spelling where
  pattern := .seq [
    .choice [
      .seq [decimals, literally ".", .optional decimals, .optional exponent],
      .seq [.optional decimals, literally ".", decimals, .optional exponent],
      .seq [decimals, exponent]],
    .optional (.oneOf (anyOf "jJ"))]

def comment : Spelling where
  pattern := .seq [literally "#", .any (.oneOf (allBut "\n"))]

/-- A backslash that joins two lines. -/
def continuation : Spelling where
  pattern := .seq [literally "\\",
    .choice [.seq [.optional (literally "\r"), literally "\n"], .oneOf [0]]]
  rank := 1

/-- An escape inside a string. -/
def escape : Spelling where
  pattern := .seq [literally "\\", .choice [
    .seq [literally "u", .times 4 (.oneOf hexDigit)],
    .seq [literally "U", .times 8 (.oneOf hexDigit)],
    .seq [literally "x", .times 2 (.oneOf hexDigit)],
    .seq [.oneOf digit, .optional (.seq [.oneOf digit, .optional (.oneOf digit)])],
    .seq [.optional (literally "\r"), literally "\n"],
    .oneOf (anyOf "'\"abfrntv\\"),
    .seq [literally "N\x7b", .many (.oneOf (allBut "\x7d")), literally "\x7d"]]]
  rank := 1
  attached := true
  weight := 1

/-- A backslash inside a string that begins no escape. -/
def loneBackslash : Spelling := { pattern := literally "\\", attached := true, weight := 3 }

/-- The text of a format behind the colon. -/
def formatText : Spelling where
  pattern := .many (.oneOf (allBut "\x7b\x7d\n"))
  rank := 1

/-- The letter that tells how a value is to be shown. -/
def conversion : Spelling where
  pattern := .seq [literally "!", .oneOf (between 'a' 'z')]

end Spelling

end RefactorAudit.Python

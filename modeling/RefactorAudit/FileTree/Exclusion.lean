-- SUMMARY: Patterns of files that are left out.
import RefactorAudit.FileTree.Wildcard

/-!
# Exclusions

In a pattern of excluded files `?` stands for one character, `*` for any characters, slashes
included, `[…]` for one of several characters and `[!…]` for one of all others. `**` has to be a
whole part of the path and stands for any number of directories. There is no way to quote a
character but brackets.
-/

namespace RefactorAudit

/-- Why a pattern is not well formed. -/
inductive PatternProblem where
  | manyStars
  | starsInPart
  | openBracket
  deriving DecidableEq, Repr, Inhabited

def PatternProblem.message : PatternProblem → String
  | manyStars => "wildcards are either regular `*` or recursive `**`"
  | starsInPart => "recursive wildcards must form a single path component"
  | openBracket => "invalid range pattern"

/-- A pattern that is not well formed, and the number of characters before the fault. -/
structure PatternFault where
  place : Nat
  problem : PatternProblem
  deriving DecidableEq, Repr, Inhabited

def PatternFault.message (f : PatternFault) : String :=
  let problem := f.problem.message
  s!"Pattern syntax error near position {f.place}: {problem}"

/-- A pattern of excluded files. -/
structure Exclusion where
  pieces : List Wildcard
  deriving Repr, Inhabited

namespace Exclusion

/-- The ranges between brackets. A dash at one of the ends stands for itself. -/
def ranges : List Char → List (Nat × Nat)
  | low :: '-' :: high :: rest => (low.toNat, high.toNat) :: ranges rest
  | c :: rest => (c.toNat, c.toNat) :: ranges rest
  | [] => []

/-- The content of brackets, at least one character, and what follows the closing one. -/
def bracketed? : List Char → Option (List Char × List Char)
  | [] => none
  | c :: rest =>
    if rest.contains ']' then
      some (c :: rest.takeWhile (· ≠ ']'), (rest.dropWhile (· ≠ ']')).drop 1)
    else none

/-- A bracket with what follows it. -/
def class? : List Char → Option (Wildcard × List Char)
  | '!' :: rest => (bracketed? rest).map fun (inner, rest) => (.within true (ranges inner), rest)
  | rest => (bracketed? rest).map fun (inner, rest) => (.within false (ranges inner), rest)

/-- The pieces of a pattern from a place on, behind a given character. -/
def piecesFrom : Nat → Nat → Option Char → List Char → Except PatternFault (List Wildcard)
  | _, _, _, [] => .ok []
  | 0, _, _, _ => .ok []
  | fuel + 1, place, last, c :: rest =>
    let goOn (piece : Wildcard) (last : Char) (after : List Char) :
        Except PatternFault (List Wildcard) := do
      let place := place + (rest.length + 1 - after.length)
      return piece :: (← piecesFrom fuel place (some last) after)
    match c with
    | '?' => goOn (.within true []) c rest
    | '*' =>
      let stars := 1 + (rest.takeWhile (· = '*')).length
      let after := rest.dropWhile (· = '*')
      if stars > 2 then .error ⟨place + 2, .manyStars⟩
      else if stars < 2 then goOn .anything c rest
      else if place > 0 && last ≠ some '/' then .error ⟨place - 1, .starsInPart⟩
      else
        match after with
        | [] => goOn .anything c after
        | ['/'] => goOn .anything '/' []
        | '/' :: after => goOn .directories '/' after
        | _ => .error ⟨place + 2, .starsInPart⟩
    | '[' =>
      match class? rest with
      | some (piece, after) => goOn piece ']' after
      | none => .error ⟨place, .openBracket⟩
    | c => goOn (.exactly c.toNat) c rest

/-- The pattern that a text stands for. -/
def ofText (text : String) : Except PatternFault Exclusion :=
  (piecesFrom text.length 0 none text.toList).map fun pieces => { pieces }

/-- Whether a path is excluded. -/
def excludes (e : Exclusion) (path : String) : Bool :=
  Wildcard.isMatch e.pieces (path.toList.map Char.toNat)

end Exclusion

end RefactorAudit

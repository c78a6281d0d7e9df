-- SUMMARY: Patterns with wildcards, matched against texts.

/-!
# Wildcards

A text is a list of numbers, be they characters or bytes; a pattern is a list of pieces. All ways to
match are followed at once: what is left of the text behind the pieces so far is a set of its rests,
kept with the longest first.
-/

namespace RefactorAudit

/-- A piece of a pattern. -/
inductive Wildcard where
  /-- Exactly this number. -/
  | exactly (unit : Nat)
  /-- One number in one of the ranges or, if negated, in none of them. -/
  | within (negated : Bool) (ranges : List (Nat × Nat))
  /-- Any stretch of the text. -/
  | anything
  /-- Any stretch without a slash. -/
  | inside
  /-- One of several patterns. -/
  | either (options : List (List Wildcard))
  deriving Repr, Inhabited

namespace Wildcard

/-- A text that is still to be matched. -/
abbrev Rest := List Nat

def slash : Nat := '/'.toNat

/-- A text and all texts that it ends with, the longest first. -/
def tails : Rest → List Rest
  | [] => [[]]
  | c :: rest => (c :: rest) :: tails rest

/-- What may be left behind a stretch without a slash. -/
def tailsInside : Rest → List Rest
  | [] => [[]]
  | c :: rest => (c :: rest) :: if c = slash then [] else tailsInside rest

/-- The rests of two sets of rests of one text. -/
def merge : List Rest → List Rest → List Rest
  | [], ts => ts
  | ss, [] => ss
  | s :: ss, t :: ts =>
    if s.length = t.length then s :: merge ss ts
    else if s.length > t.length then s :: merge ss (t :: ts)
    else t :: merge (s :: ss) ts
  termination_by ss ts => ss.length + ts.length

/-- What is left of each rest that begins with a number that satisfies a test. -/
def afterOne (test : Nat → Bool) (rests : List Rest) : List Rest :=
  rests.filterMap fun
    | c :: rest => if test c then some rest else none
    | [] => none

/-- Whether a number lies in one of the ranges. -/
def inRanges (ranges : List (Nat × Nat)) (c : Nat) : Bool :=
  ranges.any fun (low, high) => low ≤ c && c ≤ high

mutual

/-- What may be left behind a piece. -/
def after : Wildcard → List Rest → List Rest
  | exactly unit, rests => afterOne (· = unit) rests
  | within negated ranges, rests => afterOne (fun c => inRanges ranges c != negated) rests
  | anything, rests => ((rests.head?).map tails).getD []
  | inside, rests => (rests.map tailsInside).foldr merge []
  | either options, rests => afterEither options rests

/-- What may be left behind one of several patterns. -/
def afterEither : List (List Wildcard) → List Rest → List Rest
  | [], _ => []
  | option :: options, rests => merge (afterAll option rests) (afterEither options rests)

/-- What may be left behind a pattern. -/
def afterAll : List Wildcard → List Rest → List Rest
  | [], rests => rests
  | piece :: pieces, rests => afterAll pieces (after piece rests)

end

/-- Whether a pattern matches a text as a whole. -/
def isMatch (pattern : List Wildcard) (text : List Nat) : Bool :=
  (afterAll pattern [text]).any List.isEmpty

/-- One number that is no slash. -/
def notSlash : Wildcard := within true [(slash, slash)]

/-- Nothing, or whole directories with the slash behind them. -/
def directories : Wildcard := either [[], [anything, exactly slash]]

end Wildcard

end RefactorAudit

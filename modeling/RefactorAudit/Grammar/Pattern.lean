-- SUMMARY: The texts of tokens as patterns, and a network that runs many patterns at once.

/-!
# Patterns

The text of a token is given by a pattern over *letters*. A letter is a class of characters that no
pattern tells apart, by its number; which character belongs to which class is up to the language.

All patterns of a language are laid out in one network of spots. A set of spots is where several
patterns may stand at once; a step over a letter leads to another set.
-/

namespace RefactorAudit.Grammar

/-- What a token may look like. -/
inductive Pattern where
  | blank
  | oneOf (letters : List Nat)
  | seq (parts : List Pattern)
  | choice (parts : List Pattern)
  /-- One or more of the content. -/
  | many (content : Pattern)
  deriving Inhabited

namespace Pattern

def optional (p : Pattern) : Pattern := choice [p, blank]

def any (p : Pattern) : Pattern := choice [many p, blank]

/-- Exactly `n` of a pattern. -/
def times (n : Nat) (p : Pattern) : Pattern := seq (List.replicate n p)

end Pattern

/-- How a token is written. -/
structure Spelling where
  pattern : Pattern
  /-- A token of higher rank is preferred, even to a longer one. -/
  rank : Int := 0
  /-- Of two tokens of one rank and one text the weightier is preferred. -/
  weight : Nat := 0
  /-- No blanks may stand in front of the token. -/
  attached : Bool := false
  deriving Inhabited

/-- A place in a network. -/
inductive Spot where
  /-- One of the letters leads on. -/
  | step (letters : List Nat) (next : Nat) (blank : Bool)
  | fork (left right : Nat)
  /-- The pattern is complete. -/
  | done
  deriving Inhabited

/-- The patterns of all tokens of a language. -/
structure Network where
  spots : Array Spot := #[]
  /-- The token of each spot. -/
  owners : Array Nat := #[]
  /-- Where the pattern of each token begins, for tokens that have one. -/
  entries : Array (Option Nat) := #[]
  spellings : Array (Option Spelling) := #[]
  /-- All letters are below this number. -/
  letterCount : Nat := 0
  deriving Inhabited

/-! ## Layout -/

/-- Adds a spot. -/
def Spot.add (spot : Spot) : StateM (Array Spot) Nat := fun spots =>
  (spots.size, spots.push spot)

/-- Lays out a pattern in front of a spot. The result is where it begins. -/
def Pattern.layOut (next : Nat) : Pattern → StateM (Array Spot) Nat
  | .blank => return next
  | .oneOf letters => Spot.add (.step letters next false)
  | .seq parts => sequence next parts
  | .choice parts => branches next parts
  | .many content => do
    let loop ← Spot.add (.fork next next)
    let entry ← content.layOut loop
    modify (·.set! loop (.fork entry next))
    return entry
where
  /-- Parts one after another. -/
  sequence (next : Nat) : List Pattern → StateM (Array Spot) Nat
    | [] => return next
    | p :: rest => do
      let behind ← sequence next rest
      p.layOut behind
  /-- Parts beside one another. -/
  branches (next : Nat) : List Pattern → StateM (Array Spot) Nat
    | [] => return next
    | [p] => p.layOut next
    | p :: rest => do
      let left ← p.layOut next
      let right ← branches next rest
      Spot.add (.fork left right)

/-- Lays out a token, with any number of blanks in front of it unless it is attached. -/
def Spelling.layOut (s : Spelling) (blanks : List Nat) : StateM (Array Spot) Nat := do
  let stop ← Spot.add .done
  let entry ← s.pattern.layOut stop
  if s.attached then return entry
  let loop ← Spot.add (.fork entry entry)
  let skip ← Spot.add (.step blanks loop true)
  modify (·.set! loop (.fork skip entry))
  return loop

namespace Network

/-- Lays out the tokens of a language in order; those without a spelling have no spots. -/
def ofSpellings (letterCount : Nat) (blanks : List Nat) (spellings : Array (Option Spelling)) :
    Network :=
  spellings.zipIdx.foldl (fun net (spelling, token) =>
    match spelling with
    | none => { net with entries := net.entries.push none }
    | some s =>
      let (entry, spots) := (s.layOut blanks).run net.spots
      { net with
        spots
        owners := net.owners ++ Array.replicate (spots.size - net.spots.size) token
        entries := net.entries.push (some entry) })
    { letterCount, spellings }

/-- Whether a token has a spelling. -/
def spelled (net : Network) (token : Nat) : Bool := (net.entries[token]?.join).isSome

def owner (net : Network) (spot : Nat) : Nat := net.owners[spot]?.getD 0

def rankOf (net : Network) (token : Nat) : Int := (net.spellings[token]?.join).elim 0 (·.rank)

def weightOf (net : Network) (token : Nat) : Nat := (net.spellings[token]?.join).elim 0 (·.weight)

/-! ## Sets of spots -/

/-- Adds a number to an ascending list. -/
def putInOrder (n : Nat) : List Nat → List Nat
  | [] => [n]
  | m :: rest =>
    if n < m then n :: m :: rest else if n = m then m :: rest else m :: putInOrder n rest

/-- The spots that a set of spots leads to without a letter; forks are resolved. `fuel` bounds the
spots looked at. -/
def close (net : Network) : Nat → List Nat → List Nat → List Nat → List Nat
  | 0, _, _, result => result
  | _, [], _, result => result
  | fuel + 1, spot :: rest, forks, result =>
    match net.spots[spot]? with
    | some (.fork left right) =>
      if forks.contains spot then net.close fuel rest forks result
      else net.close fuel (left :: right :: rest) (spot :: forks) result
    | some _ => net.close fuel rest forks (putInOrder spot result)
    | none => net.close fuel rest forks result

/-- The set of spots reached from some spots without a letter, ascending. -/
def reach (net : Network) (spots : List Nat) : List Nat := net.close 100000 spots [] []

/-- A step from a set of spots over some letters. -/
structure Move where
  letters : List Nat
  /-- The spots that follow, not yet resolved. -/
  targets : List Nat
  /-- Nothing but blanks between tokens is read. -/
  blank : Bool
  rank : Int
  deriving Inhabited

/-- Where a letter leads, while steps are gathered. -/
structure Pending where
  targets : List Nat := []
  blank : Bool := true
  rank : Option Int := none
  deriving Inhabited

/-- What a step adds over one of its letters. -/
def Pending.add (p : Pending) (next : Nat) (blank : Bool) (rank : Int) : Pending :=
  { targets := putInOrder next p.targets
    blank := p.blank && blank
    rank := some (p.rank.elim rank (max rank)) }

/-- Adds a letter to the move that leads the same way. -/
def addLetter (letter : Nat) (p : Pending) : List Move → List Move
  | [] => [⟨[letter], p.targets, p.blank, p.rank.getD 0⟩]
  | m :: rest =>
    if m.targets = p.targets && m.blank = p.blank && some m.rank = p.rank then
      { m with letters := letter :: m.letters } :: rest
    else m :: addLetter letter p rest

/-- All steps from a set of spots. -/
def moves (net : Network) (spots : List Nat) : List Move :=
  let pending := spots.foldl (fun table spot =>
    match net.spots[spot]? with
    | some (.step letters next blank) =>
      let rank := if blank then 0 else net.rankOf (net.owner spot)
      letters.foldl (fun table letter => table.modify letter (·.add next blank rank)) table
    | _ => table) (Array.replicate net.letterCount ({} : Pending))
  (List.range net.letterCount).foldl (fun moves letter =>
    let p := pending[letter]?.getD {}
    if p.targets.isEmpty then moves else addLetter letter p moves) []

/-- The tokens that own some of the spots, ascending. -/
def ownersOf (net : Network) (spots : List Nat) : List Nat :=
  spots.foldl (fun owners spot => putInOrder (net.owner spot) owners) []

/-- The tokens that are complete in a set of spots. -/
def completed (net : Network) (spots : List Nat) : List Nat :=
  spots.filterMap fun spot =>
    match net.spots[spot]? with
    | some Spot.done => some (net.owner spot)
    | _ => none

/-- Whether blanks between tokens may be read in a set of spots. -/
def readsBlanks (net : Network) (spots : List Nat) : Bool :=
  spots.any fun spot =>
    match net.spots[spot]? with
    | some (.step _ _ blank) => blank
    | _ => false

/-- Whether the first of two tokens with one text is preferred. -/
def prefers (net : Network) (a b : Nat) : Bool :=
  if net.rankOf a ≠ net.rankOf b then net.rankOf a > net.rankOf b
  else if net.weightOf a ≠ net.weightOf b then net.weightOf a > net.weightOf b
  else a < b

/-- Whether a step is taken although a token is complete. `blanks` tells whether blanks may be read
as well. -/
def goesOn (net : Network) (m : Move) (complete : Nat) (blanks : Bool) : Bool :=
  if m.rank < net.rankOf complete then false
  else if m.rank = net.rankOf complete then
    !m.blank && (!blanks || (net.ownersOf m.targets).contains complete)
  else true

end Network

end RefactorAudit.Grammar

-- SUMMARY: Which tokens of a language can be taken for one another.
import RefactorAudit.Grammar.Pattern

/-!
# Confusion

Where a reader expects some tokens and the text holds another one, it matters whether looking for
that other token as well could change how the expected ones are read. It could if the two may have
one text, or if one of them may begin with the other.
-/

namespace RefactorAudit.Grammar

/-- How a token stands to another one. -/
structure Confusion where
  /-- It is preferred where both have one text. -/
  sameText : Bool := false
  /-- It may go on where the other one is complete. -/
  longer : Bool := false
  /-- It may go on with a character that can also follow the other one. -/
  longerWithinText : Bool := false
  /-- It is complete where the other one might go on, and is taken. -/
  shorter : Bool := false
  /-- It is complete where blanks between tokens may be read. -/
  atBlanks : Bool := false
  /-- It has a text that the other one does not have. -/
  ownText : Bool := false
  deriving DecidableEq, Repr, Inhabited

namespace Confusion

/-- Looking for the token as well would disturb the reading of the other one. -/
def disturbs (c : Confusion) : Bool := c.longerWithinText || c.atBlanks || c.sameText

/-- Some text belongs to both, or one begins with the other. -/
def overlaps (c : Confusion) : Bool := c.atBlanks || c.shorter || c.sameText || c.longer

/-- The statuses of two tokens towards each other, while they are compared. -/
structure Comparison where
  left : Confusion := {}
  right : Confusion := {}
  deriving Inhabited

/-- Changes the status of one of the two. -/
def Comparison.mark (c : Comparison) (isLeft : Bool) (f : Confusion → Confusion) : Comparison :=
  if isLeft then { c with left := f c.left } else { c with right := f c.right }

/-- Marks what is complete in a set of spots; the second result is the token that is taken. -/
def markComplete (net : Network) (left : Nat) (blanks : Bool) (complete : List Nat)
    (c : Comparison) : Comparison × Option Nat :=
  complete.foldl (fun (c, best) token =>
    let c := if blanks then c.mark (token = left) fun s => { s with atBlanks := true } else c
    match best with
    | none => (c, some token)
    | some other =>
      if other = token then (c, best) else
      let winner := if net.prefers other token then other else token
      (c.mark (winner = left) fun s => { s with sameText := true }, some winner)) (c, none)

/-- Marks what a step means for a complete token. `follow` gives the letters that may follow each
token. -/
def markMove (net : Network) (left right : Nat) (follow : Nat → List Nat) (blanks : Bool)
    (complete : Nat) (m : Network.Move) (c : Comparison) : Comparison :=
  let owners := net.ownersOf m.targets
  if owners.contains complete then c else
  match owners with
  | [] => c
  | advanced :: _ =>
    if net.goesOn m complete blanks then
      let other := if advanced = left then right else left
      let within := m.letters.any (follow other).contains
      c.mark (advanced = left) fun s =>
        { s with longer := true, longerWithinText := s.longerWithinText || within }
    else c.mark (complete = left) fun s => { s with shorter := true }

/-- Compares two tokens from the sets of spots on that both can reach. -/
def compareFrom (net : Network) (left right : Nat) (follow : Nat → List Nat) :
    Nat → List (List Nat) → List (List Nat) → Comparison → Comparison
  | 0, _, _, c => c
  | _, [], _, c => c
  | fuel + 1, spots :: rest, seen, c =>
    match net.ownersOf spots with
    | [only] =>
      compareFrom net left right follow fuel rest seen
        (c.mark (only = left) fun s => { s with ownText := true })
    | _ =>
      let here := net.reach spots
      let blanks := net.readsBlanks here
      let (c, best) := markComplete net left blanks (net.completed here) c
      let (c, rest, seen) := (net.moves here).foldl (fun (c, rest, seen) m =>
        let c := match best with
          | some complete => markMove net left right follow blanks complete m c
          | none => c
        if seen.contains m.targets then (c, rest, seen)
        else (c, m.targets :: rest, m.targets :: seen)) (c, rest, seen)
      compareFrom net left right follow fuel rest seen c

/-- How two tokens stand to each other. -/
def compare (net : Network) (follow : Nat → List Nat) (left right : Nat) : Comparison :=
  match net.entries[left]?.join, net.entries[right]?.join with
  | some a, some b => compareFrom net left right follow 10000 [[a, b]] [] {}
  | _, _ => {}

end Confusion

/-- How all tokens of a language stand to one another. -/
structure Confusions where
  rows : Array (Array Confusion) := #[]
  deriving Inhabited

namespace Confusions

/-- How the first token stands to the second. -/
def of (table : Confusions) (a b : Nat) : Confusion := ((table.rows[a]?.getD #[])[b]?).getD {}

/-- Compares all tokens. -/
def ofNetwork (net : Network) (follow : Nat → List Nat) : Confusions :=
  let n := net.entries.size
  { rows := (Array.range n).foldl (fun rows a =>
      (Array.range a).foldl (fun rows b =>
        let c := Confusion.compare net follow a b
        (rows.modify a (·.set! b c.left)).modify b (·.set! a c.right)) rows)
      (Array.replicate n (Array.replicate n {})) }

end Confusions

end RefactorAudit.Grammar

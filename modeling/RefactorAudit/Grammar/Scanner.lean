-- SUMMARY: Machines that find the longest token of a set at a place of a text.
import RefactorAudit.Grammar.Item

/-!
# Scanners

A scanner looks for the tokens of one set at once. It is the network of their patterns with its sets
of spots numbered: from each state every letter leads to at most one state. Blanks in front of a
token are passed over and do not belong to it.
-/

namespace RefactorAudit.Grammar

/-- Where a letter leads: nowhere if the state is zero. -/
structure Scan where
  state : Nat := 0
  blank : Bool := false
  deriving Inhabited

/-- A state of a scanner. -/
structure ScanState where
  /-- The token that is complete here. -/
  token : Option Nat := none
  /-- The end of the text may be read here. -/
  atEnd : Bool := false
  /-- The end of the text is taken for a null character here. -/
  nullAtEnd : Bool := false
  steps : Array Scan := #[]
  deriving Inhabited

/-- A scanner. State zero leads nowhere, state one is the start. -/
structure Scanner where
  states : Array ScanState := #[]
  deriving Inhabited

/-- The sets of spots found so far. -/
structure ScanSurvey where
  sets : Array (List Nat × Bool) := #[]
  numbers : Std.HashMap (List Nat × Bool) Nat := {}
  deriving Inhabited

/-- The number of a set of spots; zero is kept for the state that leads nowhere. -/
def ScanSurvey.number (spots : List Nat) (atEnd : Bool) : StateM ScanSurvey Nat := fun s =>
  match s.numbers[(spots, atEnd)]? with
  | some n => (n, s)
  | none =>
    let n := s.sets.size + 1
    (n, { sets := s.sets.push (spots, atEnd), numbers := s.numbers.insert (spots, atEnd) n })

/-- The runs of neighbouring letters in a list of letters. -/
def letterRuns (letters : List Nat) : List (List Nat) :=
  (letters.mergeSort (· ≤ ·)).foldr (fun l runs =>
    match runs with
    | (m :: run) :: rest => if l + 1 = m then (l :: m :: run) :: rest else [l] :: (m :: run) :: rest
    | _ => [l] :: runs) []

/-- Whether some moves tell many single characters apart. A scanner then takes the end of the text
for a null character. -/
def readsEndAsNull (moves : List Network.Move) : Bool :=
  let narrow := (moves.filter (!·.blank)).filterMap fun m =>
    let runs := letterRuns m.letters
    if runs.all (·.length ≤ 2) then some runs.length else none
  narrow.foldl (· + ·) 0 ≥ 8

/-- The state of a set of spots. A step is taken unless a complete token is preferred to it. -/
def Network.scanState (net : Network) (spots : List Nat) (atEnd : Bool) :
    StateM ScanSurvey ScanState := do
  let token := (net.completed spots).foldl (fun best t =>
    match best with
    | some b => if net.prefers b t then some b else some t
    | none => some t) none
  let blanks := net.readsBlanks spots
  let mut steps := Array.replicate net.letterCount ({} : Scan)
  let moves := (net.moves spots).filter fun m => token.all fun t => net.goesOn m t blanks
  for m in moves do
    let n ← ScanSurvey.number (net.reach m.targets) (atEnd && m.blank)
    steps := m.letters.foldl (fun steps l => steps.set! l ⟨n, m.blank⟩) steps
  return { token, atEnd, nullAtEnd := readsEndAsNull moves, steps }

/-- The states from a number on, together with those they lead to. -/
def Network.scanStates (net : Network) : Nat → Nat → Array ScanState →
    StateM ScanSurvey (Array ScanState)
  | 0, _, states => return states
  | fuel + 1, n, states => do
    match (← get).sets[n]? with
    | none => return states
    | some (spots, atEnd) =>
      let state ← net.scanState spots atEnd
      net.scanStates fuel (n + 1) (states.push state)

/-- The scanner for a set of tokens, with the end of the text among them or not. -/
def Network.scanner (net : Network) (tokens : TokenSet) : Scanner :=
  let count := net.entries.size
  let entries := (tokens.members count).filterMap fun t => net.entries[t]?.join
  let start : StateM ScanSurvey (Array ScanState) := do
    let _ ← ScanSurvey.number (net.reach entries) (tokens.has count)
    net.scanStates 100000 0 #[{}]
  { states := (start.run {}).1 }

end RefactorAudit.Grammar

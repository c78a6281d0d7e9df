-- SUMMARY: The merging of states that a reader need not tell apart.
import RefactorAudit.Grammar.Confusion
import RefactorAudit.Grammar.Draft

/-!
# Merging

Two states with the same items are merged if the tokens that may follow make no difference: they act
alike on every token that both expect, lead to merged states, and neither expects a token that would
disturb the reading of those the other one expects. A reader in a merged state may close productions
before it sees that a token does not fit.
-/

namespace RefactorAudit.Grammar

/-- What is known of the tokens of a grammar when states are merged. -/
structure TokenRelations where
  /-- Tokens that no state can do without: the layout depends on their being expected. -/
  watched : TokenSet
  /-- For each token, the expected tokens whose reading it would disturb. -/
  disturbs : Array TokenSet
  deriving Inhabited

/-- States that are put together, and the group of each state. -/
structure Partition where
  groups : Array (Array Nat) := #[]
  groupOf : Array Nat := #[]
  deriving Inhabited

/-- The group of a state. -/
def Partition.of (p : Partition) (state : Nat) : Nat := p.groupOf[state]?.getD 0

/-- A draft with what is compared most often. -/
structure Candidate where
  draft : Draft
  /-- Tokens that would disturb the reading of an expected one. -/
  barred : TokenSet
  deriving Inhabited

/-- The tokens that would disturb the reading of some expected token. -/
def TokenRelations.barred (r : TokenRelations) (expected : TokenSet) : TokenSet :=
  r.disturbs.zipIdx.foldl (fun s (disturbed, t) =>
    if TokenSet.meet disturbed expected = 0 then s else s.join (.single t)) r.watched

/-- Whether two actions are the same up to the merging of states. -/
def Partition.sameAction (p : Partition) : Action → Action → Bool
  | .shift a r, .shift b q => p.of a = p.of b && r = q
  | a, b => a == b

/-- Whether two lists of actions are the same up to the merging of states. -/
def Partition.sameActions (p : Partition) (as bs : Array Action) : Bool :=
  as.size = bs.size && (as.zip bs).all fun (a, b) => p.sameAction a b

/-- Whether two states act differently on a token that both expect, or one expects a token that the
other must not. -/
def Partition.conflict (p : Partition) (a b : Candidate) : Bool :=
  let onlyA := a.draft.expected.without b.draft.expected
  let onlyB := b.draft.expected.without a.draft.expected
  (onlyA.meet b.barred) != 0 || (onlyB.meet a.barred) != 0 ||
    (a.draft.actions.zip b.draft.actions).any fun (as, bs) =>
      !as.isEmpty && !bs.isEmpty && !p.sameActions as bs

/-- Where a list of actions leads. -/
def shiftTarget? (actions : Array Action) : Option Nat :=
  match actions.back? with
  | some (.shift n _) => some n
  | _ => none

/-- Whether two states lead to different groups over a symbol. -/
def Partition.diverge (p : Partition) (a b : Candidate) : Bool :=
  ((a.draft.actions.zip b.draft.actions).any fun (as, bs) =>
    match shiftTarget? as, shiftTarget? bs with
    | some m, some n => p.of m ≠ p.of n
    | _, _ => false) ||
  (a.draft.moves.zip b.draft.moves).any fun (m, n) =>
    m ≠ errorState && n ≠ errorState && p.of m ≠ p.of n

/-- Splits a group: the first state stays, with those that agree with it; the first of the rest that
stays keeps those that agree with it, and so on. The results are the states that stay and those that
leave. -/
def splitGroup (apart : Nat → Nat → Bool) : Nat → List Nat → List Nat × List Nat
  | 0, states => (states, [])
  | _, [] => ([], [])
  | fuel + 1, first :: rest =>
    let (leave, agree) := rest.partition (apart first)
    let (stay, more) := splitGroup apart fuel agree
    (first :: stay, leave ++ more)

/-- Splits all groups from a number on; the states that leave a group form a new one at the end. The
second result tells whether any group was split. -/
def Partition.splitFrom (apart : Partition → Nat → Nat → Bool) :
    Nat → Nat → Partition → Bool → Partition × Bool
  | 0, _, p, changed => (p, changed)
  | fuel + 1, n, p, changed =>
    match p.groups[n]? with
    | none => (p, changed)
    | some states =>
      let (stay, leave) := splitGroup (apart p) (states.size + 1) states.toList
      if leave.isEmpty then splitFrom apart fuel (n + 1) p changed
      else
        let new := p.groups.size
        let p : Partition :=
          { groups := (p.groups.set! n stay.toArray).push leave.toArray
            groupOf := leave.foldl (fun groupOf s => groupOf.set! s new) p.groupOf }
        splitFrom apart fuel (n + 1) p true

/-- Splits groups until all states of each agree. -/
def Partition.splitAll (apart : Partition → Nat → Nat → Bool) : Nat → Partition → Partition
  | 0, p => p
  | fuel + 1, p =>
    match p.splitFrom apart 1000000 0 false with
    | (p, true) => splitAll apart fuel p
    | (p, false) => p

/-- The states with the same items, put together. -/
def coreGroups (drafts : Array Draft) : Partition :=
  let count := drafts.foldl (fun n d => max n (d.core + 1)) 0
  { groups := drafts.zipIdx.foldl (fun groups (d, i) => groups.modify d.core (·.push i))
      (Array.replicate count #[])
    groupOf := drafts.map (·.core) }

/-- Puts the groups of the error state and of the start state first. -/
def Partition.putFirst (p : Partition) : Partition :=
  let swap (p : Partition) (state place : Nat) : Partition :=
    let groups := p.groups.swapIfInBounds (p.of state) place
    { groups
      groupOf := groups.zipIdx.foldl (fun groupOf (states, n) =>
        states.foldl (fun groupOf s => groupOf.set! s n) groupOf) p.groupOf }
  swap (swap p errorState 0) startState 1

/-- Renumbers the states that a draft leads to. -/
def Draft.renumber (d : Draft) (f : Nat → Nat) : Draft :=
  { d with
    actions := d.actions.map (·.map fun
      | .shift n repeated => .shift (f n) repeated
      | action => action)
    moves := d.moves.map fun n => if n = errorState then n else f n }

/-- Takes over what another state does. -/
def Draft.join (a b : Draft) : Draft :=
  { core := a.core
    expected := a.expected.join b.expected
    actions := (a.actions.zip b.actions).map fun (as, bs) => if bs.isEmpty then as else bs
    moves := (a.moves.zip b.moves).map fun (m, n) => if n = errorState then m else n }

/-- Merges the states that need not be told apart. -/
def merge (relations : TokenRelations) (drafts : Array Draft) : Array Draft :=
  let candidates := drafts.map fun d => (⟨d, relations.barred d.expected⟩ : Candidate)
  let on (f : Partition → Candidate → Candidate → Bool) (p : Partition) (a b : Nat) : Bool :=
    f p (candidates[a]?.getD default) (candidates[b]?.getD default)
  let (p, _) := (coreGroups drafts).splitFrom (on (·.conflict)) 1000000 0 false
  let p := (p.splitAll (on (·.diverge)) 1000).putFirst
  p.groups.map fun states =>
    let all := states.map fun s => drafts[s]?.getD default
    ((all.extract 1 all.size).foldl Draft.join (all[0]?.getD default)).renumber p.of

/-! ## States that only pass on -/

/-- The rule of a reduction that leaves no trace: it closes a hidden rule over one part. -/
def Indexed.silentRule? (g : Indexed) : Action → Option Nat
  | .reduce rule size _ production =>
    let v := g.vars[rule]?.getD default
    if size = 1 && g.plain[production]?.getD false && v.hidden
        && !g.supertypes.contains v.name && !(g.renamed[g.ruleBase + rule]?.getD true) then
      some rule
    else none
  | _ => none

/-- The rule that a state closes silently on every token that it expects, if it does nothing else
but pass over extra tokens. -/
def Indexed.passes? (g : Indexed) (d : Draft) : Option Nat :=
  let actions := (d.actions.toList.flatMap (·.toList)).filter (· != Action.skip)
  match actions with
  | [] => none
  | first :: rest =>
    match g.silentRule? first with
    | some rule => if rest.all (g.silentRule? · = some rule) then some rule else none
    | none => none

/-- Leads past states that only close a rule silently: straight to what comes behind that rule. -/
def Indexed.leadPast (g : Indexed) (drafts : Array Draft) : Array Draft :=
  let passing := drafts.map g.passes?
  let past (d : Draft) (n : Nat) : Nat :=
    match passing[n]?.join with
    | some rule =>
      let behind := d.moves[rule]?.getD errorState
      if behind = errorState then n else behind
    | none => n
  drafts.map fun d =>
    d.renumber fun n => past d (past d (past d (past d (past d (past d n)))))

/-- The states in use, larger ones first behind the error state and the start state. -/
def arrange (drafts : Array Draft) : Array Draft :=
  let used := drafts.foldl (fun used d =>
    let used := d.moves.foldl (fun used n => used.set! n true) used
    d.actions.foldl (fun used as =>
      match shiftTarget? as with
      | some n => used.set! n true
      | none => used) used)
    (((Array.replicate drafts.size false).set! errorState true).set! startState true)
  let size (n : Nat) : Nat :=
    if n ≤ 1 then 1000000 - n else
    let d := drafts[n]?.getD default
    (d.actions.countP (!·.isEmpty)) + d.moves.countP (· ≠ errorState)
  let keyed := ((List.range drafts.size).filter fun n => used[n]?.getD false).map
    fun n => (size n, n)
  let order := (keyed.mergeSort fun a b => a.1 ≥ b.1).toArray.map (·.2)
  let numbers := order.zipIdx.foldl (fun numbers (n, i) => numbers.set! n i)
    (Array.replicate drafts.size errorState)
  order.map fun n => (drafts[n]?.getD default).renumber fun m => numbers[m]?.getD errorState

end RefactorAudit.Grammar

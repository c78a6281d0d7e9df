-- SUMMARY: All item sets of a grammar, and the actions of a reader in each of them.
import RefactorAudit.Grammar.Item

/-!
# Drafts

A reader that holds a stack of parts read so far stands in a *state*: a set of items, each with the
tokens that may follow its production. A draft is such a state as the grammar gives it, before it is
merged with others.

A conflict between reading on and closing a production is decided by the ranks of the grammar;
where those leave it open, all actions stay and the reader forks.
-/

namespace RefactorAudit.Grammar

/-- What a reader does in a state on seeing a token. -/
inductive Action where
  /-- Reads the token. A repeated shift stays only to mark that the repetition could go on. -/
  | shift (state : Nat) (repeated : Bool)
  /-- Reads the token without leaving the state. -/
  | skip
  /-- Closes a production: its last `size` parts become one. -/
  | reduce (rule size : Nat) (preference : Int) (production : Nat)
  | accept
  | recover
  deriving BEq, Hashable, Repr, Inhabited

/-- The state of a reader that has lost its place. -/
def errorState : Nat := 0

/-- The state of a reader that has read nothing. -/
def startState : Nat := 1

/-- Items with the tokens that may follow their productions, in the order of the items. -/
abbrev Kernel := Array (Nat × TokenSet)

/-- A state of the automaton as the grammar gives it. -/
structure Draft where
  /-- Drafts with the same items have the same core. -/
  core : Nat
  /-- The tokens on which something can be done. -/
  expected : TokenSet
  /-- The actions on each token: reductions first, a shift last. -/
  actions : Array (Array Action)
  /-- The state behind each rule; the error state if the rule cannot stand here. -/
  moves : Array Nat
  deriving Inhabited

/-! ## Items of a state -/

/-- All items of a state by their numbers; the ones that are not in it have no tokens. -/
def Indexed.close (g : Indexed) (kernel : Kernel) : Array TokenSet :=
  let add (sets : Array TokenSet) (item : Nat) (tokens : TokenSet) : Array TokenSet :=
    sets.modify item (TokenSet.join tokens)
  kernel.foldl (fun sets (i, tokens) =>
    let sets := add sets i tokens
    let it := g.item i
    match it.next with
    | none => sets
    | some next =>
      if next < g.ruleBase then sets else
      let after := it.follow.elim tokens g.firstOf
      (g.openings[next - g.ruleBase]?.getD #[]).foldl (fun sets o =>
        add sets o.item (if o.passes then o.tokens.join after else o.tokens)) sets)
    (Array.replicate g.items.size 0)

/-- Adds tokens to an item of a list in the order of the items. -/
def addItem (item : Nat) (tokens : TokenSet) : List (Nat × TokenSet) → List (Nat × TokenSet)
  | [] => [(item, tokens)]
  | (i, old) :: rest =>
    if item < i then (item, tokens) :: (i, old) :: rest
    else if item = i then (i, old.join tokens) :: rest
    else (i, old) :: addItem item tokens rest

/-! ## Conflicts -/

/-- The reductions on a token: those of the highest rank so far, with that rank and the sides of
their productions. -/
structure Closings where
  actions : Array Action := #[]
  level : Int := 0
  sides : List (Option Associativity) := []
  deriving Inhabited

/-- Adds a reduction. -/
def Closings.add (c : Closings) (action : Action) (it : Item) : Closings :=
  let own := it.level.getD 0
  if c.actions.isEmpty || own > c.level then ⟨#[action], own, [it.side]⟩
  else if own < c.level then c
  else ⟨c.actions.push action, own, it.side :: c.sides⟩

/-- Decides between shifting and reducing on a token. A repetition may always go on, so its shift is
only marked. Else the higher rank wins; among equals, a left side reduces and a right side shifts;
what is still open stays. -/
def Indexed.decide (g : Indexed) (items : Array (Nat × TokenSet)) (token target : Nat)
    (closings : Closings) : Array Action :=
  let going := items.filter fun (i, _) =>
    let it := g.item i
    it.dot > 0 && it.next.elim false fun next => (g.firstOf next).has token
  let closing := items.filter fun (i, tokens) => (g.item i).next.isNone && tokens.has token
  let involved := (going ++ closing).map fun (i, _) => (g.item i).rule
  let repetition := match involved[0]? with
    | some v => (g.vars[v]?.elim false (·.repetition)) && involved.all (· = v)
    | none => false
  if repetition then closings.actions.push (.shift target true) else
  let levels := going.map fun (i, _) => (g.item i).level.getD 0
  let more := levels.any (· > closings.level)
  let less := levels.any (· < closings.level)
  let shift := Action.shift target false
  if more && !less then #[shift]
  else if less && !more then closings.actions
  else if more then closings.actions.push shift
  else if closings.sides.all (· == some .left) then closings.actions
  else if closings.sides.all (· == some .right) then #[shift]
  else closings.actions.push shift

/-! ## All states -/

/-- The states found so far, by their kernels. -/
structure Survey where
  kernels : Array Kernel := #[]
  numbers : Std.HashMap Kernel Nat := {}
  cores : Std.HashMap (Array Nat) Nat := {}
  deriving Inhabited

/-- The number of a kernel. -/
def Survey.number (kernel : Kernel) : StateM Survey Nat := fun s =>
  match s.numbers[kernel]? with
  | some n => (n, s)
  | none =>
    let n := s.kernels.size
    (n, { s with kernels := s.kernels.push kernel, numbers := s.numbers.insert kernel n })

/-- The number of the core of a kernel. -/
def Survey.core (kernel : Kernel) : StateM Survey Nat := fun s =>
  let items := kernel.map (·.1)
  match s.cores[items]? with
  | some n => (n, s)
  | none => (s.cores.size, { s with cores := s.cores.insert items s.cores.size })

/-- The action of a complete item. -/
def Indexed.closing (g : Indexed) (it : Item) : Action :=
  if it.rule + 1 = g.vars.size then .accept
  else .reduce it.rule it.size it.preference it.production

/-- The draft of a kernel. The states behind it are numbered layout tokens first, then other tokens,
then rules. -/
def Indexed.draft (g : Indexed) (kernel : Kernel) : StateM Survey Draft := do
  let sets := g.close kernel
  let items := sets.zipIdx.filterMap fun (tokens, i) =>
    if tokens = 0 then none else some (i, tokens)
  let reached := items.foldl (fun table (i, tokens) =>
    let it := g.item i
    match it.next with
    | some next => table.modify next (addItem it.forward tokens)
    | none => table) (Array.replicate g.symbolCount ([] : List (Nat × TokenSet)))
  let closings := items.foldl (fun table (i, tokens) =>
    let it := g.item i
    if it.next.isSome then table else
    (List.range (g.endToken + 1)).foldl (fun table t =>
      if tokens.has t then table.modify t (·.add (g.closing it) it) else table) table)
    (Array.replicate (g.endToken + 1) ({} : Closings))
  let target (symbol : Nat) : StateM Survey Nat := do
    let kernel := reached[symbol]?.getD []
    if kernel.isEmpty then return errorState else Survey.number kernel.toArray
  let tokens := List.range g.endToken
  let mut targets := Array.replicate g.symbolCount errorState
  for t in tokens.filter g.isLayout ++ tokens.filter (!g.isLayout ·) do
    targets := targets.set! t (← target t)
  for v in [g.ruleBase : g.symbolCount] do
    targets := targets.set! v (← target v)
  let final := targets
  let actions := closings.mapIdx fun t c =>
    let behind := final[t]?.getD errorState
    if behind = errorState then
      if c.actions.isEmpty && g.extras.has t then #[Action.skip] else c.actions
    else if c.actions.isEmpty then #[Action.shift behind false]
    else g.decide items t behind c
  return {
    core := ← Survey.core kernel
    expected := actions.zipIdx.foldl (fun s (as, t) =>
      if as.isEmpty then s else s.join (.single t)) 0
    actions
    moves := final.extract g.ruleBase g.symbolCount }

/-- Drafts all states from a number on, together with those they lead to. -/
def Indexed.draftFrom (g : Indexed) : Nat → Nat → Array Draft → StateM Survey (Array Draft)
  | 0, _, drafts => return drafts
  | fuel + 1, n, drafts => do
    match (← get).kernels[n]? with
    | none => return drafts
    | some kernel =>
      let d ← g.draft kernel
      g.draftFrom fuel (n + 1) (drafts.push d)

/-- All states of a grammar. The first is the error state, still without actions, the second the
start state. -/
def Indexed.drafts (g : Indexed) : Array Draft :=
  let start : StateM Survey (Array Draft) := do
    let _ ← Survey.number #[]
    let _ ← Survey.number g.initial
    let core ← Survey.core #[]
    g.draftFrom 1000000 1 #[{
      core
      expected := 0
      actions := Array.replicate (g.endToken + 1) #[]
      moves := Array.replicate g.vars.size errorState }]
  (start.run {}).1

end RefactorAudit.Grammar

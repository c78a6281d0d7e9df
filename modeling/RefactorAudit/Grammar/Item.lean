-- SUMMARY: A grammar with its symbols and items numbered.
import RefactorAudit.Grammar.Pattern
import RefactorAudit.Grammar.Rule
import Std.Data.HashMap

/-!
# Items

An *item* is a production with a mark for how much of it has been read. This module numbers the
symbols and the items of a grammar and gathers what is needed to follow the mark: the tokens that a
symbol can begin and end with, and the items that stand at the beginning of a rule.
-/

namespace RefactorAudit.Grammar

/-- A set of tokens; bit `t` stands for token `t`. -/
abbrev TokenSet := Nat

namespace TokenSet

def single (t : Nat) : TokenSet := 1 <<< t

def has (s : TokenSet) (t : Nat) : Bool := Nat.testBit s t

def join (a b : TokenSet) : TokenSet := Nat.lor a b

def meet (a b : TokenSet) : TokenSet := Nat.land a b

/-- The members of the first set that the second one lacks. -/
def without (a b : TokenSet) : TokenSet := Nat.xor (Nat.lor a b) b

def ofList (ts : List Nat) : TokenSet := ts.foldl (fun s t => s.join (.single t)) 0

/-- The members below `bound`, ascending. -/
def members (s : TokenSet) (bound : Nat) : List Nat := (List.range bound).filter s.has

end TokenSet

/-- A token of a grammar. Anonymous tokens are named by their own text. -/
structure Terminal where
  name : String
  named : Bool := false
  hidden : Bool := false
  /-- May stand between any two tokens. -/
  extra : Bool := false
  /-- How it is written; a token without a spelling is found by the layout alone. -/
  spelling : Option Spelling := none
  /-- Whether the layout depends on the token being expected. -/
  watched : Bool := false
  deriving Inhabited

/-- A production with the mark at `dot`. Productions that differ only in what lies before the mark
share their items. -/
structure Item where
  rule : Nat
  dot : Nat
  size : Nat
  /-- The symbol after the mark. -/
  next : Option Nat
  /-- The symbol after that. -/
  follow : Option Nat
  /-- The item with the mark one place on. -/
  forward : Nat
  /-- The rank and side at the step before the mark. -/
  level : Option Int
  side : Option Associativity
  preference : Int
  production : Nat
  deriving Inhabited

/-- An item that stands at the beginning of a rule in every state in which some other rule may
begin, with the tokens that follow the rule in there. -/
structure Opening where
  item : Nat
  tokens : TokenSet
  /-- It may also be followed by what follows the rule that brought it in. -/
  passes : Bool
  deriving Inhabited

/-- A grammar with its symbols numbered, tokens first and rules after them. -/
structure Indexed where
  terminals : Array Terminal
  vars : Array Variable
  /-- Alias and field of each step of each production. -/
  labels : Array (Array (Option Alias × Option String))
  /-- Productions that give no alias and no field to any part, not even from inside a part. -/
  plain : Array Bool
  items : Array Item
  /-- The tokens that a rule can begin with. -/
  first : Array TokenSet
  /-- For each token, the tokens that can come right behind it. -/
  following : Array TokenSet
  openings : Array (Array Opening)
  /-- The items of the initial state. -/
  initial : Array (Nat × TokenSet)
  extras : TokenSet
  /-- Tokens on whose being expected the layout depends. -/
  watched : TokenSet
  /-- The token that is also read where a keyword is not expected. -/
  name : Nat
  /-- Symbols that some production renames. -/
  renamed : Array Bool
  supertypes : List String
  deriving Inhabited

namespace Indexed

/-- The end of the text is the token after all others. -/
def endToken (g : Indexed) : Nat := g.terminals.size

/-- Tokens and the end of the text come before the rules. -/
def ruleBase (g : Indexed) : Nat := g.terminals.size + 1

def symbolCount (g : Indexed) : Nat := g.ruleBase + g.vars.size

def item (g : Indexed) (i : Nat) : Item := g.items[i]?.getD default

/-- The tokens that a symbol can begin with. -/
def firstOf (g : Indexed) (symbol : Nat) : TokenSet :=
  if symbol < g.ruleBase then .single symbol else g.first[symbol - g.ruleBase]?.getD 0

/-- Whether a token is found by the layout alone. -/
def isLayout (g : Indexed) (token : Nat) : Bool :=
  g.terminals[token]?.elim false (·.spelling.isNone)

end Indexed

/-! ## What tells items apart -/

/-- What tells two items apart. -/
structure ItemKey where
  dot : Nat
  rule : Nat
  preference : Int
  size : Nat
  level : Option Int
  side : Option Associativity
  /-- The parts read so far, if one of them passes fields on to the production. -/
  read : Option (List Part)
  before : List (Option Alias × Option String)
  rest : List Step
  deriving BEq, Hashable, Inhabited

/-- The key of a production of a rule with the mark at `dot`. `passesFields` tells which rules pass
the fields of their parts on. -/
def Production.key (passesFields : Part → Bool) (p : Production) (rule dot : Nat) : ItemKey :=
  let previous := if dot = 0 then none else p.steps[dot - 1]?
  let before := (p.steps.extract 0 dot).toList
  { dot, rule
    preference := p.preference
    size := p.steps.size
    level := previous.bind (·.level)
    side := previous.bind (·.side)
    read := if before.any (passesFields ·.symbol) then some (before.map (·.symbol)) else none
    before := before.map fun s => (s.as, s.field)
    rest := (p.steps.extract dot p.steps.size).toList }

/-- The order of sides: none, left, right. -/
def sideRank : Option Associativity → Nat
  | none => 0
  | some .left => 1
  | some .right => 2

/-- The order of levels; no level comes first. -/
def levelBefore : Option Int → Option Int → Bool
  | none, some _ => true
  | some a, some b => a < b
  | _, none => false

/-- Items are ordered by how far they have been read, then by rule. -/
def ItemKey.before? (a b : ItemKey) : Bool :=
  if a.dot ≠ b.dot then a.dot < b.dot
  else if a.rule ≠ b.rule then a.rule < b.rule
  else if a.preference ≠ b.preference then a.preference < b.preference
  else if a.size ≠ b.size then a.size < b.size
  else if a.level ≠ b.level then levelBefore a.level b.level
  else if a.side ≠ b.side then sideRank a.side < sideRank b.side
  else a.read.isNone || b.read.isSome

/-! ## Sets that grow until they are complete -/

/-- Repeats a step until nothing changes, at most `fuel` times. -/
def settle (fuel : Nat) (step : α → α × Bool) (a : α) : α :=
  match fuel with
  | 0 => a
  | fuel + 1 =>
    match step a with
    | (a, true) => settle fuel step a
    | (a, false) => a

/-- One round of completing, for each rule, the tokens of the given symbols. -/
def growTokens (ruleBase : Nat) (symbols : Array (Array Nat)) (sets : Array TokenSet) :
    Array TokenSet × Bool :=
  (List.range symbols.size).foldl (fun (sets, changed) v =>
    let old := sets[v]?.getD 0
    let new := (symbols[v]?.getD #[]).foldl (fun s symbol =>
      s.join (if symbol < ruleBase then .single symbol else sets[symbol - ruleBase]?.getD 0)) old
    (sets.set! v new, changed || new != old)) (sets, false)

/-- One round of completing the rules that may begin where a rule may begin: the tokens that follow
each, and whether what follows the outer rule may follow it too. -/
def growOpenings (ruleBase : Nat) (first : Array TokenSet)
    (heads : Array (Array (Nat × Option Nat)))
    (known : Std.HashMap Nat (TokenSet × Bool)) : Std.HashMap Nat (TokenSet × Bool) × Bool :=
  known.fold (fun (table, changed) v (tokens, passes) =>
    (heads[v]?.getD #[]).foldl (fun (table, changed) (symbol, follow) =>
      if symbol < ruleBase then (table, changed) else
      let w := symbol - ruleBase
      let (more, through) : TokenSet × Bool := match follow with
        | some s => (if s < ruleBase then .single s else first[s - ruleBase]?.getD 0, false)
        | none => (tokens, passes)
      match table[w]? with
      | none => (table.insert w (more, through), true)
      | some (old, oldThrough) =>
        let new := TokenSet.join old more
        if new != old || (through && !oldThrough) then
          (table.insert w (new, oldThrough || through), true)
        else (table, changed)) (table, changed)) (known, false)

/-- One round of finding the hidden rules that pass fields on. -/
def growPassing (vars : List Variable) (known : List String) : List String × Bool :=
  vars.foldl (fun (known, changed) v =>
    let passes := v.hidden && !known.contains v.name && v.productions.any fun p =>
      p.steps.any fun s => s.field.isSome || match s.symbol with
        | .rule name => s.as.isNone && known.contains name
        | .token _ => false
    if passes then (v.name :: known, true) else (known, changed)) (known, false)

/-! ## Numbering -/

/-- Numbers the symbols of a grammar and computes what an automaton needs of it. The first rule of
the definition is the one that a whole text has to match; `name` is the token that is also read
where a keyword is not expected. -/
def Definition.index (d : Definition) (terminals : Array Terminal) (name : String) : Indexed :=
  let own := d.vars.toArray
  let root : Variable :=
    { name := "", label := "", repetition := false, hidden := true
      productions := [⟨#[⟨.rule (own[0]?.elim "" (·.name)), none, none, none, none⟩], 0⟩] }
  let vars := own.push root
  let ruleBase := terminals.size + 1
  let tokenIndex : Std.HashMap String Nat :=
    terminals.zipIdx.foldl (fun m (t, i) => m.insert t.name i) {}
  let ruleIndex : Std.HashMap String Nat :=
    vars.zipIdx.foldl (fun m (v, i) => m.insert v.name i) {}
  let number : Part → Nat
    | .token name => (tokenIndex[name]?).getD terminals.size
    | .rule name => match ruleIndex[name]? with
      | some i => ruleBase + i
      | none => (tokenIndex[name]?).getD terminals.size
  let passing := settle 64 (growPassing own.toList) []
  let passesFields : Part → Bool
    | .rule name => passing.contains name
    | .token _ => false
  let productions : Array (Nat × Production) := vars.zipIdx.flatMap fun (v, i) =>
    v.productions.toArray.map fun p => (i, p)
  let labels := productions.map fun (_, p) => p.steps.map fun s => (s.as, s.field)
  let plain := productions.map fun (_, p) =>
    p.steps.all fun s => s.as.isNone && s.field.isNone && !passesFields s.symbol
  let keyed : List (ItemKey × Nat) := productions.zipIdx.toList.flatMap fun ((v, p), i) =>
    (List.range (p.steps.size + 1)).map fun dot => (p.key passesFields v dot, i)
  let sorted := keyed.mergeSort fun a b => a.1.before? b.1
  let (distinct, numbers) := sorted.foldl
    (fun (acc : Array (ItemKey × Nat) × Std.HashMap ItemKey Nat) entry =>
      if acc.2.contains entry.1 then acc
      else (acc.1.push entry, acc.2.insert entry.1 acc.1.size)) (#[], {})
  let items := distinct.zipIdx.map fun ((key, i), self) =>
    let p := (productions[i]?.getD default).2
    { rule := key.rule, dot := key.dot, size := key.size
      next := p.steps[key.dot]?.map (number ·.symbol)
      follow := p.steps[key.dot + 1]?.map (number ·.symbol)
      forward := if key.dot < key.size then
          (numbers[p.key passesFields key.rule (key.dot + 1)]?).getD self else self
      level := key.level, side := key.side, preference := key.preference
      production := i : Item }
  let beginnings : Array (Array Nat) := items.zipIdx.foldl (fun table (it, i) =>
    if it.dot = 0 then table.modify it.rule (·.push i) else table)
    (Array.replicate vars.size #[])
  let heads : Array (Array (Nat × Option Nat)) := beginnings.map fun is =>
    is.filterMap fun i => (items[i]?).bind fun it => it.next.map fun s => (s, it.follow)
  let ends : Array (Array Nat) := vars.map fun v =>
    (v.productions.filterMap fun p => p.steps.back?.map (number ·.symbol)).toArray
  let first := settle 256 (growTokens ruleBase (heads.map (·.map (·.1))))
    (Array.replicate vars.size 0)
  let last := settle 256 (growTokens ruleBase ends) (Array.replicate vars.size 0)
  let tokensOf (sets : Array TokenSet) (symbol : Nat) : TokenSet :=
    if symbol < ruleBase then .single symbol else sets[symbol - ruleBase]?.getD 0
  let extras := terminals.zipIdx.foldl (fun s (t, i) =>
    if t.extra then TokenSet.join s (.single i) else s) 0
  let adjacent := productions.foldl (fun table (_, p) =>
    (p.steps.toList.zip (p.steps.toList.drop 1)).foldl (fun table (a, b) =>
      let right := tokensOf first (number b.symbol)
      ((tokensOf last (number a.symbol)).members terminals.size).foldl (fun table t =>
        table.modify t (·.join right)) table) table) (Array.replicate terminals.size extras)
  let following := adjacent.zipIdx.map fun (s, i) =>
    if extras.has i then TokenSet.single terminals.size - 1 else s
  let openings := (Array.range vars.size).map fun v =>
    let table := settle 256 (growOpenings ruleBase first heads)
      (({} : Std.HashMap Nat (TokenSet × Bool)).insert v (0, true))
    table.toArray.flatMap fun (w, tokens, passes) =>
      (beginnings[w]?.getD #[]).map fun item => { item, tokens, passes : Opening }
  let initial := (items.zipIdx.filter fun (it, _) => it.dot = 0 && it.rule + 1 = vars.size).map
    fun (_, i) => (i, TokenSet.single terminals.size)
  let renamed := productions.foldl (fun table (_, p) =>
    p.steps.foldl (fun table s =>
      if s.as.isSome then table.set! (number s.symbol) true else table) table)
    (Array.replicate (ruleBase + vars.size) false)
  { terminals, vars, labels, plain, items, first, following, openings, initial, extras, renamed
    watched := TokenSet.ofList ((List.range terminals.size).filter fun t =>
      terminals[t]?.elim false fun t => t.watched || t.spelling.isNone)
    name := (tokenIndex[name]?).getD terminals.size
    supertypes := d.supertypes }

end RefactorAudit.Grammar

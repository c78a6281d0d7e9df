-- SUMMARY: Grammar rules as data, and their reduction to plain productions.

/-!
# Rules

A grammar is a list of named rules built from tokens, references, sequences, choices and
repetitions, with marks for precedence, associativity, aliases and field names. This module
turns such rules into productions: lists of steps, one list per way of choosing.

Every repetition becomes a rule of its own, `r → r r | content`, so that a long list needs no
deep derivation. Rules marked for inlining are replaced by their alternatives at each use.
-/

namespace RefactorAudit.Grammar

/-- Which way a chain of one operator groups. -/
inductive Associativity where
  | left
  | right
  deriving DecidableEq, Hashable, Repr

/-- The name that a node takes instead of its own, and whether that name is a proper node kind. -/
structure Alias where
  name : String
  named : Bool
  deriving DecidableEq, Hashable, Repr

/-- The right-hand side of a rule. -/
inductive Rule where
  | blank
  /-- A token, by its name in the token table. -/
  | token (name : String)
  /-- Another rule, by its name. -/
  | rule (name : String)
  | seq (parts : List Rule)
  | choice (parts : List Rule)
  /-- One or more of the content. -/
  | many (content : Rule)
  /-- Precedence and associativity, used to resolve conflicts. -/
  | rank (level : Int) (side : Option Associativity) (content : Rule)
  /-- Preference between complete readings of an ambiguous text. -/
  | prefer (level : Int) (content : Rule)
  | named (as : Alias) (content : Rule)
  | field (name : String) (content : Rule)
  deriving BEq, Hashable, Repr, Inhabited

namespace Rule

/-- The content, or nothing. -/
def optional (r : Rule) : Rule := .choice [r, .blank]

/-- Any number of the content. -/
def any (r : Rule) : Rule := .choice [.many r, .blank]

/-- One or more of the content with a separator between them. -/
def separated (separator : String) (r : Rule) : Rule :=
  .seq [r, any (.seq [.token separator, r])]

/-- One or more of the content with commas between them. -/
def commaSeparated (r : Rule) : Rule := separated "," r

end Rule

/-- A grammar: its rules in order, the rules to inline, and the rules whose nodes stay hidden. -/
structure Definition where
  rules : List (String × Rule)
  inlined : List String
  /-- Rules that only group others; names that begin with `_` are hidden as well. -/
  supertypes : List String
  deriving Inhabited

/-! ## Repetitions -/

/-- The repetition rules made so far: the content of each with the name of its rule. -/
structure Repeats where
  made : List (Rule × String) := []
  deriving Inhabited

/-- Replaces each repetition by a reference to a rule of its own; equal contents share one rule. -/
def Rule.expandRepeats (owner : String) : Rule → StateM Repeats Rule
  | .seq parts => return .seq (← expandAll owner parts)
  | .choice parts => return .choice (← expandAll owner parts)
  | .many content => do
    let inner ← content.expandRepeats owner
    match (← get).made.find? (fun entry => entry.1 == inner) with
    | some (_, name) => return .rule name
    | none =>
      let name := s!"{owner}_repeat{(← get).made.length}"
      modify fun r => { r with made := r.made ++ [(inner, name)] }
      return .rule name
  | .rank level side content => return .rank level side (← content.expandRepeats owner)
  | .prefer level content => return .prefer level (← content.expandRepeats owner)
  | .named as content => return .named as (← content.expandRepeats owner)
  | .field name content => return .field name (← content.expandRepeats owner)
  | r => return r
where
  /-- The same for each member of a list. -/
  expandAll (owner : String) : List Rule → StateM Repeats (List Rule)
    | [] => return []
    | r :: rest => do
      let r ← r.expandRepeats owner
      return r :: (← expandAll owner rest)

/-! ## Productions -/

/-- What stands at one place of a production. -/
inductive Part where
  | token (name : String)
  | rule (name : String)
  deriving DecidableEq, Hashable, Inhabited

/-- One symbol of a production with the marks that hold at its place. -/
structure Step where
  symbol : Part
  level : Option Int := none
  side : Option Associativity := none
  as : Option Alias := none
  field : Option String := none
  deriving BEq, Hashable, Inhabited

/-- One way to write a rule: its steps, and the preference among ambiguous readings. -/
structure Production where
  steps : Array Step := #[]
  preference : Int := 0
  deriving BEq, Inhabited

/-- All ways of choosing inside a rule; the results are free of `choice`. -/
def Rule.alternatives : Rule → List Rule
  | .seq parts => sequences parts
  | .choice parts => union parts
  | .rank level side content => content.alternatives.map (.rank level side)
  | .prefer level content => content.alternatives.map (.prefer level)
  | .named as content => content.alternatives.map (.named as)
  | .field name content => content.alternatives.map (.field name)
  | r => [r]
where
  /-- The product of the choices of each part, the first part varying slowest. -/
  sequences : List Rule → List Rule
    | [] => [.seq []]
    | part :: rest =>
      let heads := part.alternatives
      let tails := sequences rest
      heads.flatMap fun head => tails.map fun tail =>
        match tail with
        | .seq parts => .seq (head :: parts)
        | other => .seq [head, other]
  /-- The choices of each part in turn. -/
  union : List Rule → List Rule
    | [] => []
    | part :: rest => part.alternatives ++ union rest

/-- The marks in force while a choice-free rule is laid out. -/
structure Marks where
  level : Option Int := none
  side : Option Associativity := none
  as : Option Alias := none
  field : Option String := none

/-- The preference of larger size wins. -/
def stronger (new old : Int) : Int := if new.natAbs > old.natAbs then new else old

/-- Changes the last step of a production. -/
def Production.mapLast (p : Production) (f : Step → Step) : Production :=
  { p with steps := p.steps.modify (p.steps.size - 1) f }

/-- Lays out a choice-free rule as steps. The last step of a marked group that is not at the end of
its production takes the marks from outside the group, because nothing of the group is left to
resolve there. The result tells whether a step was added. -/
def Rule.layOut (marks : Marks) (atEnd : Bool) : Rule → StateM Production Bool
  | .seq parts => layOutAll marks atEnd parts
  | .token name => push (.token name)
  | .rule name => push (.rule name)
  | .rank level side content => do
    let inner := { marks with level := some level, side := side <|> marks.side }
    let added ← content.layOut inner atEnd
    if added && !atEnd then
      modify fun p => p.mapLast fun s =>
        { s with level := marks.level, side := if side.isSome then marks.side else s.side }
    return added
  | .prefer level content => do
    modify fun p => { p with preference := stronger level p.preference }
    content.layOut marks atEnd
  | .named as content => content.layOut { marks with as := some as } atEnd
  | .field name content => content.layOut { marks with field := some name } atEnd
  | _ => return false
where
  /-- Adds one step under the current marks. -/
  push (symbol : Part) : StateM Production Bool := do
    modify fun p => { p with
      steps := p.steps.push ⟨symbol, marks.level, marks.side, marks.as, marks.field⟩ }
    return true
  /-- The same for each member of a sequence; only the last one may be at the end. -/
  layOutAll (marks : Marks) (atEnd : Bool) : List Rule → StateM Production Bool
    | [] => return false
    | [r] => r.layOut marks atEnd
    | r :: rest => do
      let a ← r.layOut marks false
      let b ← layOutAll marks atEnd rest
      return a || b

/-- The productions of a rule, without repetition. -/
def Rule.productions (r : Rule) : List Production :=
  (r.alternatives.map fun choice => ((choice.layOut {} true).run {}).2).eraseDups

/-- Puts the steps of an inlined rule in the place of the step that refers to it. The alias and
field of that step pass to every inserted step, its ranks to the last one if that has none. -/
def Production.insert (p : Production) (at_ : Nat) (inner : Production) : Production :=
  match p.steps[at_]? with
  | none => p
  | some gone =>
    let marked := inner.steps.map fun s =>
      { s with as := gone.as <|> s.as, field := gone.field <|> s.field }
    let marked := marked.modify (marked.size - 1) fun s =>
      { s with level := s.level <|> gone.level, side := s.side <|> gone.side }
    { steps := p.steps.extract 0 at_ ++ marked ++ p.steps.extract (at_ + 1) p.steps.size
      preference := stronger inner.preference p.preference }

/-- Inlines every reference to a rule of `table`, from the left; `fuel` bounds the nesting. -/
def Production.inline (table : List (String × List Production)) : Nat → Production → List Production
  | 0, p => [p]
  | fuel + 1, p =>
    let place := p.steps.findIdx? fun s =>
      match s.symbol with
      | .rule name => table.any (·.1 == name)
      | .token _ => false
    match place with
    | none => [p]
    | some i =>
      match p.steps[i]?.map (·.symbol) with
      | some (Part.rule name) =>
        match table.find? (·.1 == name) with
        | some (_, inners) => inners.flatMap fun inner => (p.insert i inner).inline table fuel
        | none => [p]
      | _ => [p]

/-! ## Standing aliases -/

/-- The aliases under which a rule stands in some productions, in order; nothing where it stands
under its own name. -/
def aliasesOf (productions : List Production) (name : String) : List (Option Alias) :=
  productions.flatMap fun p => (p.steps.toList.filter (·.symbol == .rule name)).map (·.as)

/-- The member that occurs most often; of several the first. -/
def mostFrequent (as : List Alias) : Option Alias :=
  as.foldl (fun best a =>
    match best with
    | some b => if as.count b < as.count a then some a else some b
    | none => some a) none

/-- The alias that a rule takes for good: the most frequent one, if it never stands without. -/
def standingAlias? (productions : List Production) (name : String) : Option Alias :=
  let as := aliasesOf productions name
  if as.any (·.isNone) then none else mostFrequent (as.filterMap id)

/-- Removes from the productions of a rule the aliases that their symbols take for good. An alias
stays if another production gives it at the same place to a symbol that does not. -/
def withoutStanding (standing : List (String × Alias)) (productions : List Production) :
    List Production :=
  let own (s : Step) : Option Alias := match s.symbol with
    | .rule name => standing.lookup name
    | .token _ => none
  let kept (j : Nat) (s : Step) : Bool := productions.any fun p =>
    (p.steps[j]?).any fun other => other.as == s.as && own other != s.as
  productions.map fun p =>
    { p with steps := p.steps.mapIdx fun j s =>
        if s.as.isSome && s.as == own s && !kept j s then { s with as := none } else s }

/-! ## The finished rules -/

/-- A rule of the finished grammar. -/
structure Variable where
  name : String
  /-- The name that its nodes show. -/
  label : String
  productions : List Production
  /-- A rule made for a repetition. -/
  repetition : Bool
  /-- Its nodes do not show in the tree; their children take their place. -/
  hidden : Bool
  deriving Inhabited

/-- The rules of a definition as productions: repetitions apart, inlined rules gone. -/
def Definition.vars (d : Definition) : List Variable :=
  let expand : StateM Repeats (List (String × Rule)) :=
    d.rules.mapM fun (name, r) => do return (name, ← r.expandRepeats name)
  let (plain, repeats) := expand.run {}
  let twice (name : String) : Production :=
    ⟨#[⟨.rule name, none, none, none, none⟩, ⟨.rule name, none, none, none, none⟩], 0⟩
  let flat := plain.map (fun (name, r) => (name, false, r.productions)) ++
    repeats.made.map (fun (r, name) => (name, true, twice name :: r.productions))
  let all := flat.flatMap (·.2.2)
  let standing := (flat.filter fun entry => !d.inlined.contains entry.1).filterMap
    fun (name, _) => (standingAlias? all name).map fun a => (name, a)
  let flat := flat.map fun (name, repetition, ps) =>
    (name, repetition, withoutStanding standing ps)
  let table := (flat.filter fun entry => d.inlined.contains entry.1).map
    fun (name, _, ps) => (name, ps)
  (flat.filter fun entry => !d.inlined.contains entry.1).map fun (name, repetition, ps) =>
    let as := standing.lookup name
    { name, repetition
      label := as.elim name (·.name)
      productions := (ps.flatMap fun p => p.inline table 64).eraseDups
      hidden := as.isNone && (repetition || name.startsWith "_" || d.supertypes.contains name) }

end RefactorAudit.Grammar

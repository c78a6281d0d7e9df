-- SUMMARY: The parts of a reading, and what a reading with faults costs.
import RefactorAudit.Python.Lexer

/-!
# Parts of a reading

While a source is read, each token and each closed production is a node. A node knows the stretch of
text it covers, with the blanks before it, and what the faults inside it cost. Among several ways of
reading a faulty text the cheaper one is kept: skipping few and small parts is better than skipping
many, and one long fault is better than two.
-/

namespace RefactorAudit.Python

open RefactorAudit.Text (Position)
open RefactorAudit.Grammar

/-- What faults cost. -/
structure Prices where
  recovery : Nat
  missing : Nat
  skippedTree : Nat
  skippedByte : Nat
  skippedLine : Nat

def prices : Prices :=
  { recovery := 500, missing := 110, skippedTree := 100, skippedByte := 1, skippedLine := 30 }

/-- What a node is. -/
inductive Label where
  /-- A token or a rule of the grammar. -/
  | symbol (number : Nat)
  /-- A stretch that fits no rule. -/
  | fault
  /-- A part of such a stretch, while it still grows. -/
  | skipped
  deriving DecidableEq, Inhabited

/-- What is known of a node without its children. -/
structure Info where
  label : Label
  /-- The production that was closed here. -/
  production : Option Nat := none
  /-- Where the blanks before the node begin. -/
  before : Position
  start : Position
  stop : Position
  /-- Stands between tokens and belongs to no production. -/
  extra : Bool := false
  /-- A token that was supplied. -/
  missing : Bool := false
  /-- A token with the text of a keyword. -/
  keyword : Bool := false
  layout : Option Layout := none
  changed : Bool := false
  cost : Nat := 0
  preference : Int := 0
  /-- Nodes that show as children, counting those of hidden children. -/
  shownChildren : Nat := 0
  /-- Nodes that show anywhere below. -/
  shownBelow : Nat := 0
  deriving Inhabited

/-- A token, or a production with its parts. -/
inductive Node where
  | mk (info : Info) (children : List Node)
  deriving Inhabited

namespace Node

def info : Node → Info
  | mk i _ => i

def children : Node → List Node
  | mk _ cs => cs

def setExtra (extra : Bool) : Node → Node
  | mk i cs => mk { i with extra } cs

/-- Bytes covered, the blanks before it included. -/
def totalBytes (n : Node) : Nat := n.info.stop.offset - n.info.before.offset

/-- Whether a label shows in the finished tree. -/
def labelShown (g : Indexed) : Label → Bool
  | .fault => true
  | .skipped => false
  | .symbol s =>
    if s < g.ruleBase then g.terminals[s]?.elim false (!·.hidden)
    else g.vars[s - g.ruleBase]?.elim false (!·.hidden)

def shown (g : Indexed) (n : Node) : Bool := labelShown g n.info.label

/-- How many nodes a stack counts for this one. Skipped parts count although they do not show,
because progress after a fault is measured by this number. -/
def count (g : Indexed) (n : Node) : Nat :=
  n.info.shownBelow + (if n.shown g then 1 else 0) + (if n.info.label = .skipped then 1 else 0)

def isFault (n : Node) : Bool := n.info.label = .fault

/-- A token. The end of the text belongs to no production. -/
def leaf (t : Token) (before : Position) : Node :=
  mk { label := t.symbol.elim .fault .symbol, before, start := t.start, stop := t.stop
       extra := t.symbol = some endToken
       keyword := t.keyword, layout := t.layout, changed := t.changed } []

/-- A supplied token. It covers no text. -/
def absent (symbol : Nat) (at_ : Position) : Node :=
  mk { label := .symbol symbol, before := at_, start := at_, stop := at_, missing := true
       cost := prices.missing + prices.recovery } []

/-- The alias that a production gives to its parts, in order; extra parts have none. -/
def aliases (g : Indexed) (production : Option Nat) : List (Option Alias × Option String) :=
  ((production.bind fun p => g.labels[p]?).getD #[]).toList

/-- Pairs the parts of a production with their labels. -/
def labelled : List (Option Alias × Option String) → List Node →
    List ((Option Alias × Option String) × Node)
  | _, [] => []
  | labels, c :: rest =>
    if c.info.extra then ((none, none), c) :: labelled labels rest
    else match labels with
      | l :: ls => (l, c) :: labelled ls rest
      | [] => ((none, none), c) :: labelled [] rest

/-- A node over parts that stand one after another. `at_` is its place if there are none. -/
def parent (g : Indexed) (label : Label) (production : Option Nat) (preference : Int)
    (at_ : Position) (parts : List Node) : Node :=
  let broken : Bool := label = .fault || label = .skipped
  let pairs := labelled (aliases g production) parts
  let start : Info :=
    { label, production
      before := (parts.head?).elim at_ (·.info.before)
      start := (parts.head?).elim at_ (·.info.start)
      stop := (parts.getLast?).elim at_ (·.info.stop)
      preference }
  let summed := pairs.foldl (fun (i : Info) ((as, _), c) =>
    let visible := as.isSome || c.shown g
    let skippedHere :=
      if !broken || c.info.extra || (c.isFault && c.children.isEmpty) then 0
      else if c.shown g then prices.skippedTree
      else if c.children.isEmpty then 0
      else prices.skippedTree * c.info.shownChildren
    { i with
      cost := i.cost + (if c.info.label = .skipped then 0 else c.info.cost) + skippedHere
      preference := i.preference + c.info.preference
      shownBelow := i.shownBelow + c.info.shownBelow + (if visible then 1 else 0)
      shownChildren := i.shownChildren +
        (if visible then 1 else if c.children.isEmpty then 0 else c.info.shownChildren)
      changed := i.changed || c.info.changed }) start
  let total := if !broken then summed else
    { summed with cost := summed.cost + prices.recovery
        + prices.skippedByte * (summed.stop.offset - summed.start.offset)
        + prices.skippedLine * (summed.stop.row - summed.start.row) }
  mk total parts

/-- Whether two nodes of one stack are the same reading of the same text. Of two faulty nodes one is
as good as the other. -/
def alike (a b : Node) : Bool :=
  a.info.label = b.info.label &&
    ((a.info.cost > 0 && b.info.cost > 0) ||
      (a.info.start.offset - a.info.before.offset = b.info.start.offset - b.info.before.offset
        && a.info.stop.offset - a.info.start.offset = b.info.stop.offset - b.info.start.offset
        && a.children.length = b.children.length && a.info.extra = b.info.extra
        && (a.info.layout = b.info.layout || !a.children.isEmpty)))

/-- The order of labels in which equally good readings are compared. -/
def labelRank : Label → Nat
  | .symbol s => s
  | .skipped => 65534
  | .fault => 65535

mutual

/-- Compares two readings symbol by symbol. -/
def compare : Node → Node → Ordering
  | mk a as, mk b bs =>
    (Ord.compare (labelRank a.label) (labelRank b.label)).then
      ((Ord.compare as.length bs.length).then (compareAll as bs))

/-- Compares the parts of two readings. -/
def compareAll : List Node → List Node → Ordering
  | a :: as, b :: bs => (compare a b).then (compareAll as bs)
  | _, _ => .eq

end

/-- Whether the second reading replaces the first: it costs less, or as much and is preferred. Of
two equally good faulty readings the later one is kept, of two faultless ones the smaller. -/
def replaces (old new : Node) : Bool :=
  if new.info.cost < old.info.cost then true
  else if old.info.cost < new.info.cost then false
  else if new.info.preference > old.info.preference then true
  else if old.info.preference > new.info.preference then false
  else if old.info.cost > 0 then true
  else compare old new = .gt

end Node

end RefactorAudit.Python

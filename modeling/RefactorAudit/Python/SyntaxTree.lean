-- SUMMARY: Syntax trees, and the first fault in one.
import RefactorAudit.Python.Reading.Reader

/-!
# Syntax trees

The finished tree of a source. Parts that only group others are gone, their children in their place;
each node knows its kind, the field it fills in its parent, where it stands, and whether it or
something below it is at fault.
-/

namespace RefactorAudit.Python

open RefactorAudit.Text (Position)
open RefactorAudit.Grammar

/-- A place by line and by bytes in the line, both counted from zero. -/
structure Point where
  row : Nat
  column : Nat
  deriving DecidableEq, Repr, Inhabited

/-- Whether a node is part of the source as the grammar has it. -/
inductive Soundness where
  | sound
  /-- A stretch that fits no rule. -/
  | fault
  /-- A token that the source lacks. -/
  | missing
  deriving DecidableEq, Repr, Inhabited

/-- What is known of a node without its children. -/
structure NodeData where
  kind : String
  /-- The field that the node fills in its parent. -/
  field : Option String := none
  start : Point := ⟨0, 0⟩
  stop : Point := ⟨0, 0⟩
  soundness : Soundness := .sound
  /-- The node, something below it, or a hidden part of it is at fault. -/
  faulty : Bool := false
  /-- The text of a token. -/
  text : String := ""
  deriving DecidableEq, Repr, Inhabited

/-- A node with its children in order. -/
inductive SyntaxTree where
  | node (data : NodeData) (children : List SyntaxTree)
  deriving Inhabited

namespace SyntaxTree

def data : SyntaxTree → NodeData
  | node d _ => d

def children : SyntaxTree → List SyntaxTree
  | node _ cs => cs

def kind (t : SyntaxTree) : String := t.data.kind

/-- The first child that fills a field. -/
def child? (t : SyntaxTree) (field : String) : Option SyntaxTree :=
  t.children.find? fun c => c.data.field == some field

/-- The line of the first character, counted from one. -/
def startLine (t : SyntaxTree) : Nat := t.data.start.row + 1

/-- The last line that holds a character of the node, counted from one. A node that ends before the
first character of a line does not reach that line. -/
def endLine (t : SyntaxTree) : Nat :=
  let stop := t.data.stop
  if stop.column = 0 ∧ stop.row > t.data.start.row then stop.row else stop.row + 1

/-! ## Faults -/

/-- What is wrong with a source, and on which line. -/
inductive SyntaxFault where
  | missing (line : Nat) (kind : String)
  | invalid (line : Nat)
  deriving DecidableEq, Repr, Inhabited

namespace SyntaxFault

def line : SyntaxFault → Nat
  | missing l _ => l
  | invalid l => l

def message : SyntaxFault → String
  | missing _ kind => s!"missing {kind}"
  | invalid _ => "invalid syntax"

end SyntaxFault

mutual

/-- The first fault of a tree: its own, or the first one in its first faulty child. A faulty tree
that shows no faulty child is reported as a whole. -/
def firstFault : SyntaxTree → SyntaxFault
  | node d cs =>
    match d.soundness with
    | .missing => .missing (d.start.row + 1) d.kind
    | .fault => .invalid (d.start.row + 1)
    | .sound => (firstFaultAmong cs).getD (.invalid (d.start.row + 1))

/-- The first fault in the first faulty tree of a list. -/
def firstFaultAmong : List SyntaxTree → Option SyntaxFault
  | [] => none
  | c :: rest => if c.data.faulty then some c.firstFault else firstFaultAmong rest

end

/-! ## From a reading -/

/-- The kind that a label shows. -/
def labelKind (g : Indexed) : Label → String
  | .symbol s =>
    if s < g.ruleBase then g.terminals[s]?.elim "end" (·.name)
    else g.vars[s - g.ruleBase]?.elim "" (·.label)
  | _ => "ERROR"

/-- The text between two places. -/
def textBetween (s : Source) (start stop : Position) : String :=
  String.ofList (s.extract start.index stop.index).toList

def point (p : Position) : Point := ⟨p.row, p.column⟩

mutual

/-- The tree of a node that shows, under an alias if it has one. -/
def ofNode (g : Indexed) (s : Source) (as : Option Alias) (field : Option String) :
    Node → SyntaxTree
  | .mk i cs =>
    node
      { kind := as.elim (labelKind g i.label) (·.name)
        field
        start := point i.start
        stop := point i.stop
        soundness := if i.missing then .missing else if i.label = .fault then .fault else .sound
        faulty := i.cost > 0 || i.missing || i.label = .fault
        text := if cs.isEmpty then textBetween s i.start i.stop else "" }
      (ofParts g s none (Node.aliases g i.production) cs)

/-- The trees of the parts of a node in order. A hidden part gives its own parts, which take its
field if they have none. -/
def ofParts (g : Indexed) (s : Source) (field : Option String) :
    List (Option Alias × Option String) → List Node → List SyntaxTree
  | _, [] => []
  | labels, .mk i cs :: rest =>
    let (label, labels) :=
      if i.extra then ((none, none), labels)
      else match labels with
        | l :: ls => (l, ls)
        | [] => ((none, none), [])
    let own := if i.extra then none else label.2 <|> field
    let here :=
      if label.1.isSome || Node.labelShown g i.label then
        [ofNode g s label.1 own (.mk i cs)]
      else ofParts g s own (Node.aliases g i.production) cs
    here ++ ofParts g s field labels rest

end

/-- The syntax tree of a source. -/
def ofSource (text : String) : SyntaxTree :=
  let s : Source := text.toList.toArray
  match readSource s with
  | some n => ofNode indexed s none none n
  | none => node { kind := "ERROR", soundness := .fault, faulty := true } []

end SyntaxTree

end RefactorAudit.Python

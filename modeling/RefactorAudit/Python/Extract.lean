-- SUMMARY: The functions and methods of a Python source.
import RefactorAudit.Python.Complexity
import RefactorAudit.Snapshot
import RefactorAudit.Warning

/-!
# Extraction

A walk through the tree records every function, and every method of a class, under the names of the
classes around it. It does not go into functions, so functions inside a function are not recorded.
-/

namespace RefactorAudit.Python

namespace SyntaxTree

/-- What a node is to the extraction. -/
inductive Role where
  | function
  | classBody
  | decorated
  | other
  deriving DecidableEq, Repr

/-- The role of a kind of node. -/
def roleOf (kind : String) : Role :=
  if kind = "function_definition" || kind = "async_function_definition" then .function
  else if kind = "class_definition" then .classBody
  else if kind = "decorated_definition" then .decorated
  else .other

def role (t : SyntaxTree) : Role := roleOf t.kind

/-- The name that a definition gives. -/
def name? (t : SyntaxTree) : Option String := (t.child? "name").map (·.data.text)

/-- A name behind the names of the classes around it, the outermost first. -/
def qualified (scope : List String) (name : String) : String := ".".intercalate (scope ++ [name])

/-- The record of a function in a scope. -/
def methodOf (scope : List String) (t : SyntaxTree) : Option (Method α) :=
  t.name?.map fun name =>
    Method.found (qualified scope name) t.startLine t.endLine t.complexity

/-! ## The walk -/

/-- What a walk knows at a node: the names of the classes around it, the outermost first, and the
functions found so far. -/
structure Walk (α : Type) where
  scope : Array String := #[]
  found : Array (Method α) := #[]

namespace Walk

def enter (name : String) (w : Walk α) : Walk α := { w with scope := w.scope.push name }

def leave (w : Walk α) : Walk α := { w with scope := w.scope.pop }

/-- Takes up a function, if it can be recorded. -/
def record (t : SyntaxTree) (w : Walk α) : Walk α :=
  match methodOf w.scope.toList t with
  | some m => { w with found := w.found.push m }
  | none => w

end Walk

mutual

/-- Walks through a tree. -/
def visit (w : Walk α) : SyntaxTree → Walk α
  | node d cs =>
    match (node d cs).role with
    | .function => w.record (node d cs)
    | .classBody =>
      match (node d cs).name? with
      | some name => (visitBelow "body" (w.enter name) cs).leave
      | none => w
    | .decorated => visitFirst "definition" w cs
    | .other => visitAll w cs

/-- Walks through the trees of a list. -/
def visitAll (w : Walk α) : List SyntaxTree → Walk α
  | [] => w
  | c :: rest => visitAll (visit w c) rest

/-- Walks through the children of the first tree that fills a field. -/
def visitBelow (field : String) (w : Walk α) : List SyntaxTree → Walk α
  | [] => w
  | node d cs :: rest => if d.field = some field then visitAll w cs else visitBelow field w rest

/-- Walks through the first tree that fills a field. -/
def visitFirst (field : String) (w : Walk α) : List SyntaxTree → Walk α
  | [] => w
  | c :: rest => if c.data.field = some field then visit w c else visitFirst field w rest

end

/-- The functions and methods of a tree, in order. -/
def methods (t : SyntaxTree) : List (Method α) := (visit {} t).found.toList

end SyntaxTree

/-- The snapshot of a source, or its first fault. -/
def extract (path source : String) : Except SyntaxTree.SyntaxFault (Snapshot α) :=
  let tree := SyntaxTree.ofSource source
  if tree.data.faulty then .error tree.firstFault
  else .ok (Snapshot.new path tree.methods)

/-- The snapshot of a source file. Names that occur more than once are told in a warning. -/
def snapshot (path source : String) : Attempt (Snapshot α) := do
  match extract path source with
  | .error fault => throw (.malformedSource path fault.line fault.message)
  | .ok snapshot =>
    if !snapshot.collisions.isEmpty then
      Noted.warn (.repeatedNames path snapshot.collisions)
    return snapshot

end RefactorAudit.Python

-- SUMMARY: Methods of a source file, and the figures of a list of methods.
import RefactorAudit.Figure
import RefactorAudit.Collection.Ascending

/-!
# Snapshots

A snapshot is the list of functions and methods found in one source file, in the order of the file.
A method knows its lines, its branching complexity, and, once coverage is attributed, how many of
its lines were executed.
-/

namespace RefactorAudit

/-! ## Names -/

namespace Names

/-- What stands behind the last dot of a text. -/
def afterLastDot (cs : List Char) : List Char := (cs.reverse.takeWhile (· ≠ '.')).reverse

/-- The own name of a method, without those of the classes around it. -/
def simple (name : String) : String := String.ofList (afterLastDot name.toList)

/-- Whether a name begins with the mark of private names. No name is private under an empty mark. -/
def isPrivate (mark name : String) : Bool :=
  !mark.isEmpty && mark.toList.isPrefixOf (afterLastDot name.toList)

end Names

/-! ## Methods -/

/-- A function or method. -/
structure Method (α : Type := Float) where
  /-- The own name, behind the names of the classes around it, with dots between. -/
  name : String
  /-- The first line, counted from one. -/
  startLine : Nat
  /-- The last line. -/
  endLine : Nat
  complexity : Nat
  /-- The share of executable lines that were executed, once known. -/
  coverage : Option α := none
  linesHit : Nat := 0
  linesTotal : Nat := 0
  deriving Inhabited

namespace Method

variable {α : Type}

/-- A method as it is found in a source, without coverage. Complexity is at least one. -/
def found (name : String) (startLine endLine complexity : Nat) : Method α :=
  { name, startLine, endLine, complexity := max complexity 1 }

def simpleName (m : Method α) : String := Names.simple m.name

def isPrivate (m : Method α) (mark : String) : Bool := Names.isPrivate mark m.name

def containsLine (m : Method α) (line : Nat) : Bool := m.startLine ≤ line && line ≤ m.endLine

end Method

/-! ## Figures of a list of methods -/

namespace Methods

variable {α : Type} [Figure α]

/-- The sum of a count over the methods, of any size. -/
def total (count : Method α → Nat) : List (Method α) → Nat
  | [] => 0
  | m :: rest => count m + total count rest

/-- One for the module itself and the complexity of each method. -/
def moduleComplexity (methods : List (Method α)) : Nat := total (·.complexity) methods + 1

/-- The mean complexity of the methods, zero if there are none. -/
def averageComplexity (methods : List (Method α)) : α :=
  if methods.isEmpty then Figure.ofNat 0
  else Figure.mean (methods.map fun m => Figure.ofNat m.complexity)

/-- The coverage of the methods in percent, each weighted by its executable lines. If nothing is
kept of the sum of these lines it is the mean of the ratios; without any ratio there is none. -/
def coveragePercent (methods : List (Method α)) : Option α :=
  let covered := methods.filter (·.coverage.isSome)
  if covered.isEmpty then none
  else
    let lines := Figure.keep α (total (·.linesTotal) covered)
    if lines > 0 then some (Figure.percent (Figure.keep α (total (·.linesHit) covered)) lines)
    else some (Figure.mean (covered.filterMap (·.coverage)) * Figure.ofNat 100)

/-- The names that occur more than once, ascending. -/
def collisions (methods : List (Method α)) : List String :=
  let names := methods.map (·.name)
  Ascending.ofList (names.filter fun n => names.count n ≥ 2)

end Methods

/-! ## Snapshots -/

/-- The methods of one source file. -/
structure Snapshot (α : Type := Float) where
  path : String
  methods : List (Method α)
  /-- Names that occur more than once. -/
  collisions : List String
  deriving Inhabited

namespace Snapshot

variable {α : Type}

/-- A snapshot of the given methods. -/
def new (path : String) (methods : List (Method α)) : Snapshot α :=
  { path, methods, collisions := Methods.collisions methods }

/-- A file without methods. -/
def empty (path : String) : Snapshot α := new path []

/-- The same file with other methods. -/
def withMethods (s : Snapshot α) (methods : List (Method α)) : Snapshot α := new s.path methods

/-- The names of the methods, ascending, each once. -/
def names (s : Snapshot α) : List String := Ascending.ofList (s.methods.map (·.name))

/-- The first method of a name. -/
def find? (s : Snapshot α) (name : String) : Option (Method α) :=
  s.methods.find? fun m => m.name = name

end Snapshot

end RefactorAudit

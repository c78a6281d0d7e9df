-- SUMMARY: The settings of the program, and how they are read.
import RefactorAudit.Severity.Weights
import RefactorAudit.Text.Natural
import RefactorAudit.Toml.Document
import RefactorAudit.Warning

/-!
# Configuration

The settings are written as a TOML document with three sections. What a document leaves out has its
standard value, and what is unknown is passed over. Weights of which one is not usable are replaced
as a whole, so the weights of a configuration that was read are usable.
-/

namespace RefactorAudit

/-! ## Settings -/

structure AuditSettings where
  /-- Methods above this complexity are flagged. -/
  threshold : Nat := 10
  /-- How private names begin. -/
  privateMark : String := "_"
  /-- How many files are audited at once; zero leaves it to the machine. -/
  jobs : Nat := 0
  /-- Patterns of files that are not audited. -/
  exclude : List String := []
  deriving DecidableEq, Repr, Inhabited

structure PathSettings where
  /-- The name of the directory that is the root of the project. -/
  marker : Option String := none
  /-- The root of the repository. -/
  repoRoot : Option String := none
  deriving DecidableEq, Repr, Inhabited

structure Config where
  audit : AuditSettings := {}
  paths : PathSettings := {}
  weights : Severity.Weights := .standard
  deriving Repr, Inhabited

namespace Config

open Toml (Item Entries)

/-! ## Values -/

/-- What is read from an item, or the place of an item that cannot be read. -/
abbrev Parsed (β : Type) := Except Toml.Fault β

def refuseAt {β : Type} (place : Nat) : Parsed β := .error (.malformed place)

def refuse {β : Type} (item : Item) : Parsed β := refuseAt item.place

/-- A whole number from zero to a limit. -/
def natural (limit : Nat) (item : Item) : Parsed Nat :=
  match item with
  | .plain _ (.integer n) => if 0 ≤ n && n ≤ limit then .ok n.toNat else refuse item
  | item => refuse item

def string : Item → Parsed String
  | .plain _ (.string text) => .ok text
  | item => refuse item

def strings : Item → Parsed (List String)
  | .list _ items | .tables _ items => items.mapM string
  | item => refuse item

/-- Whether a whole number has at most a number of bits. -/
def fits (bits : Nat) (n : Int) : Bool :=
  -Int.ofNat (Nat.pow 2 (bits - 1)) ≤ n && n < Int.ofNat (Nat.pow 2 bits)

/-- A number; whole numbers are numbers too. -/
def number (item : Item) : Parsed Float :=
  match item with
  | .plain _ (.float (some x)) => .ok x
  | .plain _ (.integer n) => if fits 64 n then .ok (Figure.ofInt n) else refuse item
  | item => refuse item

mutual

/-- Passes over an unknown item. The numbers in it have to be of a size that can be read. -/
def passOver : Item → Parsed Unit
  | .plain place (.integer n) => if fits 128 n then .ok () else refuseAt place
  | .plain place (.float none) => refuseAt place
  | .plain _ _ => .ok ()
  | .list _ items | .tables _ items => passOverAll items
  | .table _ _ entries => passOverEntries entries

def passOverAll : List Item → Parsed Unit
  | [] => .ok ()
  | item :: rest => do
    passOver item
    passOverAll rest

def passOverEntries : List (String × Item) → Parsed Unit
  | [] => .ok ()
  | (_, item) :: rest => do
    passOver item
    passOverEntries rest

end

/-! ## Sections -/

/-- The items of a section with their names. A section that is written as a list has its fields in
order; a time has no fields. -/
def fieldsOf (names : List String) (item : Item) : Parsed (List (String × Item)) :=
  match item with
  | .table _ _ entries => .ok entries
  | .list _ items | .tables _ items => .ok (names.zip items)
  | .plain _ .time => .ok []
  | item => refuse item

/-- Reads a section, one field after the other. -/
def readSection {σ : Type} (names : List String) (set : σ → String → Item → Parsed σ)
    (start : σ) (item : Item) : Parsed σ := do
  (← fieldsOf names item).foldlM (fun s (name, value) => set s name value) start

/-- Sets a field of the audit section. -/
def setAudit (s : AuditSettings) (name : String) (item : Item) : Parsed AuditSettings := do
  match name with
  | "complexity_threshold" => return { s with threshold := ← natural Text.limit32 item }
  | "private_prefix" => return { s with privateMark := ← string item }
  | "jobs" => return { s with jobs := ← natural Text.limit64 item }
  | "exclude" => return { s with exclude := ← strings item }
  | _ =>
    passOver item
    return s

def auditFields : List String := ["complexity_threshold", "private_prefix", "jobs", "exclude"]

/-- Sets a field of the section about paths. -/
def setPaths (s : PathSettings) (name : String) (item : Item) : Parsed PathSettings := do
  match name with
  | "project_root_marker" => return { s with marker := some (← string item) }
  | "repo_root" => return { s with repoRoot := some (← string item) }
  | _ =>
    passOver item
    return s

def pathFields : List String := ["project_root_marker", "repo_root"]

/-- Sets a field of the section of weights. -/
def setWeight (w : Severity.Weights) (name : String) (item : Item) :
    Parsed Severity.Weights := do
  match name with
  | "type_errors" => return { w with typeErrors := ← number item }
  | "lint_issues" => return { w with lintIssues := ← number item }
  | "complexity" => return { w with complexity := ← number item }
  | "coverage_deficit" => return { w with coverageDeficit := ← number item }
  | _ =>
    passOver item
    return w

def weightFields : List String := ["type_errors", "lint_issues", "complexity", "coverage_deficit"]

/-- Sets a section of the configuration. -/
def setSection (c : Config) (name : String) (item : Item) : Parsed Config := do
  match name with
  | "audit" => return { c with audit := ← readSection auditFields setAudit {} item }
  | "paths" => return { c with paths := ← readSection pathFields setPaths {} item }
  | "severity" => return { c with weights := ← readSection weightFields setWeight .standard item }
  | _ =>
    passOver item
    return c

/-- The configuration that a table stands for, whatever its weights are. -/
def ofEntries (entries : Entries) : Parsed Config :=
  entries.foldlM (fun c (name, item) => setSection c name item) {}

/-! ## Documents -/

/-- The name of the file with the settings. -/
def fileName : String := ".refactorguard.toml"

/-- The settings of a document as they are written; a fault is put into words. -/
def ofText (text : String) : Except String Config :=
  match Toml.readEntries text >>= ofEntries with
  | .ok config => .ok config
  | .error fault =>
    let message := fault.message text
    .error s!"Failed to parse {fileName}: {message}"

/-- Replaces weights that are not usable. -/
def withUsableWeights (c : Config) : Noted Config :=
  match c.weights.problem? with
  | none => pure c
  | some message => do
    Noted.warn (.invalidWeights message)
    return { c with weights := .standard }

/-- The configuration of a document; a fault is put into words. -/
def read (text : String) : ExceptT String Noted Config := do
  match ofText text with
  | .ok config => withUsableWeights config
  | .error message => throw message

end Config

end RefactorAudit

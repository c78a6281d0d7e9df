-- SUMMARY: Coverage reports in the LCOV tracefile format.
import RefactorAudit.Coverage.Index
import RefactorAudit.Text.Natural

/-!
# Tracefiles

A tracefile has one record a line: a kind and, behind a colon, fields with commas between. Only the
records that name a file, count the executions of a line or end a section matter; the others are
checked and passed over.
-/

namespace RefactorAudit.Coverage.Tracefile

/-! ## Records -/

/-- What a field holds. -/
inductive FieldKind where
  | text
  | natural (limit : Nat)
  /-- A number, or a dash if there is none. -/
  | count (limit : Nat)
  /-- A text that may be left out. -/
  | remark
  deriving DecidableEq, Repr, Inhabited

/-- The form of a kind of record. -/
structure Form where
  fields : List (String × FieldKind)
  /-- Whether the last field takes all that is left, further commas included. -/
  openEnded : Bool
  deriving DecidableEq, Repr, Inhabited

/-- The kinds of records. -/
def forms : List (String × Form) :=
  let line (name : String) := (name, FieldKind.natural Text.limit32)
  let count (name : String) := (name, FieldKind.natural Text.limit64)
  let total (name : String) : Form := { fields := [line name], openEnded := false }
  [("TN", { fields := [("name", .text)], openEnded := true }),
    ("SF", { fields := [("path", .text)], openEnded := true }),
    ("FN", { fields := [line "start_line", ("name", .text)], openEnded := true }),
    ("FNDA", { fields := [count "count", ("name", .text)], openEnded := true }),
    ("FNF", total "found"),
    ("FNH", total "hit"),
    ("BRDA", { fields := [line "line", line "block", line "branch", ("taken", .count Text.limit64)],
               openEnded := false }),
    ("BRF", total "found"),
    ("BRH", total "hit"),
    ("DA", { fields := [line "line", count "count", ("checksum", .remark)], openEnded := true }),
    ("LF", total "found"),
    ("LH", total "hit"),
    ("end_of_record", { fields := [], openEnded := true })]

/-- Why a line is not a record. -/
inductive Problem where
  | unknownRecord
  | missingField (name : String)
  | tooManyFields
  | invalidField (name : String) (fault : Text.NaturalFault)
  deriving DecidableEq, Repr, Inhabited

def Problem.message : Problem → String
  | unknownRecord => "unknown record"
  | missingField name => s!"field `{name}` not found"
  | tooManyFields => "too many fields found"
  | invalidField name fault =>
    let fault := fault.message
    s!"invalid value of field `{name}`: {fault}"

/-- The value of a field. -/
inductive Field where
  | text (value : String)
  | number (value : Nat)
  | absent
  deriving DecidableEq, Repr, Inhabited

def FieldKind.read (name : String) (raw : List Char) : FieldKind → Except Problem Field
  | text => .ok (.text (String.ofList raw))
  | remark => .ok (.text (String.ofList raw))
  | natural limit => ((Text.natural limit raw).map .number).mapError (.invalidField name)
  | count limit =>
    if raw = ['-'] then .ok .absent
    else ((Text.natural limit raw).map .number).mapError (.invalidField name)

/-- The fields of a record. `rest` is what is left of it, if anything. -/
def readFields (openEnded : Bool) :
    List (String × FieldKind) → Option (List Char) → Except Problem (List Field)
  | [], none => .ok []
  | [], some _ => if openEnded then .ok [] else .error .tooManyFields
  | (name, kind) :: kinds, none =>
    if kind = .remark then return .absent :: (← readFields openEnded kinds none)
    else .error (.missingField name)
  | (name, kind) :: kinds, some rest =>
    if kinds.isEmpty && openEnded then return [← kind.read name rest]
    else do
      let field ← kind.read name (rest.takeWhile (· ≠ ','))
      let behind :=
        match rest.dropWhile (· ≠ ',') with
        | [] => none
        | _ :: rest => some rest
      return field :: (← readFields openEnded kinds behind)

structure Record where
  kind : String
  fields : List Field
  deriving DecidableEq, Repr, Inhabited

/-- The record on a line. -/
def Record.read (line : List Char) : Except Problem Record :=
  let kind := String.ofList (line.takeWhile (· ≠ ':'))
  match forms.lookup kind with
  | none => .error .unknownRecord
  | some form => do
    let body := (line.dropWhile (· ≠ ':')).drop 1
    return { kind, fields := ← readFields form.openEnded form.fields (some body) }

/-! ## Files -/

variable {α : Type}

/-- What the records read so far say. -/
structure State (α : Type := Float) where
  files : Files α := []
  /-- The file of the section that is open. -/
  current : Option String := none
  deriving Inhabited

/-- Takes up one record. -/
def State.step (s : State α) (r : Record) : State α :=
  match r.kind, r.fields with
  | "SF", [.text path] => { files := s.files.touch (key path), current := some (key path) }
  | "DA", .number line :: .number count :: _ =>
    match s.current with
    | some path => { s with files := s.files.record path line count }
    | none => s
  | "end_of_record", _ => { s with current := none }
  | _, _ => s

/-- The lines of a text, without their ends. -/
def lines (text : List Char) : List (List Char) :=
  let parts := Text.split (· = '\n') text
  let parts := if parts.getLast? = some [] then parts.dropLast else parts
  parts.map fun line => (line.reverse.dropWhile (· = '\r')).reverse

/-- Takes up the records on the lines from a given number on. A fault comes with its line. -/
def readLines : Nat → State α → List (List Char) → Except (Nat × Problem) (State α)
  | _, s, [] => .ok s
  | number, s, line :: rest =>
    match Record.read line with
    | .error problem => .error (number, problem)
    | .ok record => readLines (number + 1) (s.step record) rest

/-- The files of a tracefile. -/
def read (text : String) : Except (Nat × Problem) (Files α) :=
  (readLines 1 {} (lines text.toList)).map (·.files)

/-- The wording of a fault on a line. -/
def message (line : Nat) (problem : Problem) : String :=
  let problem := problem.message
  s!"invalid record syntax at line {line}: {problem}"

end RefactorAudit.Coverage.Tracefile

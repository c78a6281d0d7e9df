-- SUMMARY: The findings of all files, and their JSON form.
import RefactorAudit.Audit.Findings

/-!
# Audit reports

A report holds one entry a file. In JSON the methods of an entry are listed by name; a method whose
name is already taken is listed with its first line. A reader may ask for some sections only.
-/

namespace RefactorAudit.Audit

open Json (Value)

variable {α : Type}

/-! ## Entries -/

/-- A field that is left out if there is no value. -/
def optional (name : String) (value : Option (Value α)) : List (String × Value α) :=
  (value.map fun v => (name, v)).toList

/-- The figures of a method. -/
def methodValue (m : Method α) : Value α :=
  .ofFields <| [("complexity", .ofNat m.complexity), ("lines_total", .ofNat m.linesTotal),
    ("lines_hit", .ofNat m.linesHit), ("start_line", .ofNat m.startLine),
    ("end_line", .ofNat m.endLine)] ++ optional "coverage" (m.coverage.map .ofFloat)

/-- The name under which a method is listed: its own if that is free. -/
def listedName (listed : Table β) (m : Method α) : String :=
  if (listed.get? m.name).isSome then s!"{m.name}@L{m.startLine}" else m.name

/-- The methods by name. -/
def methodTable (methods : List (Method α)) : Table (Value α) :=
  methods.foldl (fun listed m => listed.put (listedName listed m) (methodValue m)) []

namespace Entry

/-- The entry as a JSON object. -/
def toJson [Figure α] (e : Entry α) : Value α :=
  .ofFields <| [("complexity", .object (methodTable e.methods)),
    ("module_complexity", .ofNat (Methods.moduleComplexity e.methods)),
    ("avg_complexity", .ofFloat (Methods.averageComplexity e.methods)),
    ("missing_tests", .ofStrings e.missingTests),
    ("complexity_warnings", .ofStrings e.complexMethods)]
    ++ optional "coverage_pct" ((Methods.coveragePercent e.methods).map .ofFloat)
    ++ optional "tests" (e.diff.map fun d =>
      .ofFields [("missing", .ofStrings d.missing), ("added", .ofStrings d.added)])
    ++ (if e.collisions.isEmpty then [] else [("collisions", .ofStrings e.collisions)])
    ++ optional "error" (e.fault.map .string)

end Entry

/-! ## Sections -/

/-- The sections that a reader asks for; none means all. -/
structure Sections where
  complexMethods : Bool := false
  missingTests : Bool := false
  deriving DecidableEq, Repr, Inhabited

namespace Sections

def isFiltered (s : Sections) : Bool := s.complexMethods || s.missingTests

/-- Whether a field of an entry is shown. -/
def keeps (s : Sections) (field : String) : Bool :=
  if !s.isFiltered then true
  else if field = "complexity_warnings" then s.complexMethods
  else if field = "missing_tests" then s.missingTests
  else field = "error"

end Sections

/-! ## Reports -/

/-- The entries of all files by canonical path. -/
abbrev Report (α : Type := Float) := Table (Entry α)

namespace Report

def faultCount (r : Report α) : Nat := r.countP fun file => file.2.fault.isSome

/-- The chosen sections of the report as JSON. -/
def toJson [Figure α] (r : Report α) (sections : Sections) : Value α :=
  .object <| r.map fun (path, entry) =>
    match entry.toJson with
    | .object fields => (path, .object (fields.filter fun field => sections.keeps field.1))
    | other => (path, other)

end Report

end RefactorAudit.Audit

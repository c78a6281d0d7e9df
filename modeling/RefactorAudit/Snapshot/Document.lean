-- SUMMARY: Snapshots as JSON documents.
import RefactorAudit.Figure
import RefactorAudit.Json.Shape
import RefactorAudit.Snapshot
import RefactorAudit.Text.Natural

/-!
# Snapshot documents

The document of a snapshot lists its methods with all that is known about them. What is not known,
and an empty list of collisions, is left out.
-/

namespace RefactorAudit

open Json (Shape Value Fields)

variable {α : Type}

namespace Method

/-- What the document of a method looks like. -/
def shape : Shape :=
  let count := Shape.natural "usize" Text.limit64
  .record "MethodRecord" [("qualified_name", true, .text "a string"), ("start_line", true, count),
    ("end_line", true, count), ("complexity", true, .natural "u32" Text.limit32),
    ("coverage_ratio", false, .nullable .float), ("lines_hit", false, count),
    ("lines_total", false, count)]

/-- A method from a document of its shape. -/
def ofFields [Figure α] (fields : Fields α) : Method α :=
  let nat (name : String) : Nat :=
    (((fields.get? name).bind Value.number?).bind (·.toNat?)).getD 0
  { name := ((fields.get? "qualified_name").bind Value.string?).getD ""
    startLine := nat "start_line"
    endLine := nat "end_line"
    complexity := nat "complexity"
    coverage := ((fields.get? "coverage_ratio").bind Value.number?).map Figure.ofNumber
    linesHit := nat "lines_hit"
    linesTotal := nat "lines_total" }

/-- The document of a method. -/
def toJson (m : Method α) : Value α :=
  .object <| [("qualified_name", .string m.name), ("start_line", .ofNat m.startLine),
    ("end_line", .ofNat m.endLine), ("complexity", .ofNat m.complexity)]
    ++ (m.coverage.map fun r => ("coverage_ratio", Value.ofFloat r)).toList
    ++ [("lines_hit", .ofNat m.linesHit), ("lines_total", .ofNat m.linesTotal)]

end Method

namespace Snapshot

/-- What the document of a snapshot looks like. -/
def shape : Shape :=
  .record "ModuleSnapshot" [("path", true, .text "path string"),
    ("methods", true, .list Method.shape), ("collisions", false, .list (.text "a string"))]

/-- A snapshot from a document of its shape. -/
def ofFields [Figure α] (fields : Fields α) : Snapshot α :=
  let list (name : String) : List (Value α) := ((fields.get? name).bind Value.array?).getD []
  { path := ((fields.get? "path").bind Value.string?).getD ""
    methods := (list "methods").map fun v => Method.ofFields (v.object?.getD [])
    collisions := (list "collisions").filterMap Value.string? }

/-- The document of a snapshot. -/
def toJson (s : Snapshot α) : Value α :=
  .object <| [("path", .string s.path), ("methods", .array (s.methods.map Method.toJson))]
    ++ (if s.collisions.isEmpty then [] else [("collisions", .ofStrings s.collisions)])

end Snapshot

end RefactorAudit

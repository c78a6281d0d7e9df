-- SUMMARY: Coverage reports in the Cobertura format.
import RefactorAudit.Coverage.Index
import RefactorAudit.Coverage.Markup
import RefactorAudit.Text.Natural
import RefactorAudit.Text.Quoted

/-!
# Cobertura reports

A `class` element names a file, and the `line` elements in it tell how often its lines were
executed. All other elements are passed over, but a report has a `coverage` element. Lines outside a
class belong to no file.
-/

namespace RefactorAudit.Coverage.Cobertura

open Markup (Tag)

/-- Why a document is not a report. -/
inductive Problem where
  | classWithoutFile
  | lineWithout (name : String)
  | invalidNumber (name : String) (value : String)
  | noRoot
  deriving DecidableEq, Repr, Inhabited

def Problem.message : Problem → String
  | classWithoutFile => "<class> element without a filename attribute"
  | lineWithout name => s!"<line> element without a {name} attribute"
  | invalidNumber name value =>
    let value := Text.quoted value
    s!"invalid {name} value {value} on <line>"
  | noRoot => "missing <coverage> root element"

variable {α : Type}

/-- What the tags read so far say. -/
structure State (α : Type := Float) where
  files : Files α := []
  sawRoot : Bool := false
  /-- The file of the class that is open. -/
  current : Option String := none
  deriving Inhabited

/-- A number in an attribute of a line. -/
def number (tag : Tag) (name : String) : Except Problem Nat :=
  match tag.attribute? name with
  | none => .error (.lineWithout name)
  | some raw =>
    (Text.natural Text.limit64 (Text.trim raw)).mapError fun _ =>
      .invalidNumber name (String.ofList raw)

/-- Takes up one tag. -/
def State.step (s : State α) (tag : Tag) : Except Problem (State α) :=
  if tag.closing then
    .ok (if tag.name = "class" then { s with current := none } else s)
  else if tag.name = "coverage" then .ok { s with sawRoot := true }
  else if tag.name = "class" then
    match tag.attribute? "filename" with
    | none => .error .classWithoutFile
    | some file =>
      let path := key (String.ofList (Markup.unescape file))
      .ok { s with
        files := s.files.touch path
        current := if tag.isSelfClosing then none else some path }
  else if tag.name = "line" then
    match s.current with
    | none => .ok s
    | some path => do
      let line ← number tag "number"
      let hits ← number tag "hits"
      return { s with files := s.files.record path line hits }
  else .ok s

/-- The files of a report that is given by its tags. -/
def ofTags (tags : List Tag) : Except Problem (Files α) := do
  let s ← tags.foldlM State.step {}
  if s.sawRoot then return s.files else throw .noRoot

/-- The files of a report. -/
def read (document : String) : Except Problem (Files α) := ofTags (Markup.tags document.toList)

end RefactorAudit.Coverage.Cobertura

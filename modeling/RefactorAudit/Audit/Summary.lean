-- SUMMARY: Audit reports for people.
import RefactorAudit.Audit.Report
import RefactorAudit.Decimal.Layout
import RefactorAudit.Terminal.Style

/-!
# Audit summaries

The summary counts the files and then lists, file by file, the findings that are not empty.
-/

namespace RefactorAudit.Audit

open Terminal (Style Colour)

/-- Names behind a coloured label; nothing if there are no names. -/
def labelled (styled : Bool) (colour : Colour) (label : String) (names : List String) :
    List String :=
  if names.isEmpty then []
  else
    let label := { colour := some colour : Style }.paint styled (label ++ ":")
    let list := ", ".intercalate names
    [s!"  {label} {list}"]

/-- A flagged method with the complexity of the first method of its name. -/
def withComplexity (methods : List (Method α)) (name : String) : String :=
  let complexity := ((methods.find? fun m => m.name = name).map (·.complexity)).getD 0
  s!"{name} ({complexity})"

/-- The lines about one file. -/
def Entry.lines (e : Entry) (path : String) (sections : Sections) (styled : Bool) : List String :=
  let title := { bold := true : Style }.paint styled path
  let complexity := Methods.moduleComplexity e.methods
  let coverage :=
    match Methods.coveragePercent e.methods with
    | some percent =>
      let text := Decimal.fixed 1 percent
      s!", coverage {text}%"
    | none => ""
  let fault :=
    match e.fault with
    | some message =>
      let label := { bold := true, colour := some .red : Style }.paint styled "error:"
      [s!"  {label} {message}"]
    | none => []
  let shown (field : String) (names : List String) : List String :=
    if sections.keeps field then names else []
  let unfiltered (names : List String) : List String := if sections.isFiltered then [] else names
  let removed := (e.diff.map (·.missing)).getD []
  let added := (e.diff.map (·.added)).getD []
  [s!"{title}  (module complexity {complexity}{coverage})"] ++ fault
    ++ labelled styled .red "removed" (unfiltered removed)
    ++ labelled styled .green "added" (unfiltered added)
    ++ labelled styled .yellow "high complexity"
        (shown "complexity_warnings" (e.complexMethods.map (withComplexity e.methods)))
    ++ labelled styled .yellow "missing tests" (shown "missing_tests" e.missingTests)
    ++ labelled styled .magenta "name collisions" (unfiltered e.collisions)

namespace Report

/-- The line that counts the files. -/
def headline (r : Report) (styled : Bool) : String :=
  let count := r.length
  let total := { bold := true : Style }.paint styled s!"Audited {count} files"
  let faults := r.faultCount
  if faults > 0 then
    let failed := { colour := some .red : Style }.paint styled s!"{faults} errored"
    s!"{total} ({failed})"
  else total

/-- The report as lines of text. -/
def lines (r : Report) (sections : Sections) (styled : Bool) : List String :=
  r.headline styled :: r.flatMap fun (path, entry) => "" :: entry.lines path sections styled

/-- The report as text. -/
def text (r : Report) (sections : Sections) (styled : Bool) : String :=
  "".intercalate ((r.lines sections styled).map (· ++ "\n"))

end Report

end RefactorAudit.Audit

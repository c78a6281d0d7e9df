-- SUMMARY: What the commands do.
import RefactorAudit.Audit.Project
import RefactorAudit.Audit.Summary
import RefactorAudit.CommandLine.Command
import RefactorAudit.Config.Discovery
import RefactorAudit.Severity.Ranking
import RefactorAudit.Snapshot.Document

/-!
# Running commands

A command reads files of a tree, prints text and may write one file. A coverage report or tests that
are named but missing count as empty; every other file that is named has to be readable.
-/

namespace RefactorAudit

namespace CommandLine

/-! ## Failures -/

/-- Why a command cannot be carried out: what was tried, and the causes, each of the one before. -/
structure Failure where
  what : String
  causes : List String := []
  deriving DecidableEq, Repr, Inhabited

namespace Failure

/-- A failure because of a fault. -/
def ofFault (what : String) (fault : Fault) : Failure :=
  { what
    causes := fault.message ::
      match fault with
      | .refused _ refusal => [refusal.message]
      | _ => [] }

/-- A message whose further lines are indented. -/
def indented (blanks message : String) : String :=
  ("\n" ++ blanks).intercalate (message.splitOn "\n")

/-- The causes one a line. Several causes are numbered. -/
def causeLines (causes : List String) : List String :=
  match causes with
  | [cause] => ["    " ++ indented "    " cause]
  | causes => causes.zipIdx.map fun (cause, n) =>
    let number := toString n
    "".pushn ' ' (5 - number.length) ++ number ++ ": " ++ indented "       " cause

/-- The failure as it is told. -/
def text (f : Failure) : String :=
  if f.causes.isEmpty then s!"Error: {f.what}\n"
  else
    let lines := "".intercalate ((causeLines f.causes).map (· ++ "\n"))
    s!"Error: {f.what}\n\nCaused by:\n{lines}"

/-- The failure on one line. -/
def chain (f : Failure) : String := ": ".intercalate (f.what :: f.causes)

end Failure

/-- A result that a failure may prevent, with the warnings given on the way. -/
abbrev Action := ExceptT Failure Noted

namespace Action

variable {β : Type}

/-- A result that a fault may prevent, and what was tried. -/
def ofAttempt (what : String) (x : Attempt β) : Action β := ExceptT.adapt (Failure.ofFault what) x

/-- A result that a fault may prevent, and what was tried. -/
def ofExcept (what : String) (x : Except Fault β) : Action β :=
  match x with
  | .ok v => return v
  | .error fault => throw (Failure.ofFault what fault)

end Action

/-! ## Configuration -/

/-- The configuration with what the command line says instead. -/
def Invocation.override (i : Invocation) (c : Config) : Config :=
  { c with
    paths :=
      { marker := i.marker.or c.paths.marker
        repoRoot := i.repoRoot.or c.paths.repoRoot }
    audit := { c.audit with jobs := i.jobs.getD c.audit.jobs } }

/-- The configuration of a run. -/
def Invocation.settings (i : Invocation) (t : FileTree) : Action Config := do
  return i.override (← Action.ofAttempt "Failed to load configuration" (Config.load t i.config))

end CommandLine

namespace Config

/-- How the configuration spells paths. -/
def normalizer (c : Config) : Normalizer :=
  { marker := c.paths.marker, repoRoot := c.paths.repoRoot }

/-- What the configuration says about audits. -/
def options (c : Config) : Audit.Options :=
  { threshold := c.audit.threshold, privateMark := c.audit.privateMark }

end Config

namespace CommandLine

/-! ## Inputs -/

/-- The coverage report at a path; one that is missing has no files. -/
def readCoverage (t : FileTree) (c : Config) (path : String) : Action Coverage.Index := do
  let index ←
    match t.coverage path with
    | .ok index => pure index
    | .error (.notFound path) =>
      Noted.warn (.missingCoverage path)
      pure .empty
    | .error fault => throw (Failure.ofFault "Failed to load coverage report" fault)
  return index.withRepoRoot c.paths.repoRoot

/-- The tests at a path; those that are missing mention nothing. -/
def readTests (t : FileTree) (c : Config) (path : String) : Action Corpus := do
  match ← (t.corpus path c.audit.exclude).run with
  | .ok corpus => return corpus
  | .error (.notFound path) =>
    Noted.warn (.missingTests path)
    return .empty
  | .error fault => throw (Failure.ofFault "Failed to read tests" fault)

/-! ## Outputs -/

/-- What a command has printed, and the files it has left. -/
structure Outcome where
  tree : FileTree
  output : String := ""
  errors : String := ""
  deriving Inhabited

/-- A document with one item a line, and the end of the last line. -/
def documentText (v : Json.Value) : String := v.pretty "" ++ "\n"

/-- Writes a text to the output or to a file. `what` tells a refusal from its cause. -/
def emit (t : FileTree) (path : Option String) (what : Option String) (text : String) :
    Action Outcome :=
  match path with
  | none => return { tree := t, output := text }
  | some path =>
    match t.write path text, what with
    | .ok tree, _ => return { tree }
    | .error refusal, none => throw { what := refusal.message }
    | .error refusal, some what => throw { what, causes := [refusal.message] }

/-- Writes a document to the output or to a file. -/
def emitDocument (t : FileTree) (path : Option String) (v : Json.Value) : Action Outcome :=
  emit t path (path.map fun path => s!"Failed to write {path}") (documentText v)

/-- A ranking as it is printed. -/
def rankingText (json : Bool) (ranking : List Severity.Ranked) : String :=
  if json then documentText (Severity.Ranking.toJson ranking) else Severity.Ranking.text ranking

/-- An audit report as it is printed. -/
def reportText (json styled : Bool) (sections : Audit.Sections) (report : Audit.Report) : String :=
  if json then documentText (report.toJson sections) else report.text sections styled

/-! ## Commands -/

/-- Audits a file or a directory. Only text that is not written to a file is coloured. -/
def AuditCommand.run (a : AuditCommand) (t : FileTree) (c : Config) (styled : Bool) :
    Action Outcome := do
  let coverage ← a.coverage.mapM (readCoverage t c)
  let tests ← a.tests.mapM (readTests t c)
  let options := { c.options with threshold := a.threshold.getD c.options.threshold }
  let context : Audit.Context :=
    { options, coverage, tests, normalizer := c.normalizer, exclude := c.audit.exclude }
  let audit := if a.all then Audit.directory else Audit.file
  let report ← Action.ofAttempt s!"Failed to audit {a.refactored}"
    (audit t a.original a.refactored context)
  let sections : Audit.Sections :=
    { complexMethods := a.complexMethods, missingTests := a.missingTests }
  emit t a.output none (reportText a.json (styled && a.output.isNone) sections report)

/-- Prints the methods of a file. -/
def ExtractCommand.run (e : ExtractCommand) (t : FileTree) (c : Config) : Action Outcome := do
  let snapshot ← Action.ofAttempt s!"Failed to extract {e.file}" (t.snapshot e.file)
  let snapshot ←
    match e.coverage with
    | some path => pure (snapshot.annotate (← readCoverage t c path))
    | none => pure snapshot
  emitDocument t none snapshot.toJson

/-- Merges reports. The ranking goes where the merged report does not go. -/
def MergeCommand.run (m : MergeCommand) (t : FileTree) (c : Config) : Action Outcome := do
  let reports ← m.reports.mapM fun (source, path) =>
    let name := source.name
    Action.ofAttempt s!"Failed to load {name} report" (t.records source path)
  let merged := Report.merge c.normalizer reports
  let outcome ← emitDocument t m.output merged.toJson
  if m.rank then
    let text := rankingText false (Severity.rank c.weights merged)
    if m.output.isSome then return { outcome with output := text }
    else return { outcome with errors := text }
  else return outcome

/-- Ranks the files of a merged report. -/
def RankCommand.run (r : RankCommand) (t : FileTree) (c : Config) : Action Outcome := do
  let merged ← Action.ofExcept "Failed to load merged report" (t.merged r.merged)
  let ranking := Severity.rank c.weights merged
  let shown := r.top.elim ranking ranking.take
  emit t none none (rankingText r.json shown)

/-- Carries out a command. -/
def Invocation.run (i : Invocation) (t : FileTree) (styled : Bool) : Action Outcome := do
  let c ← i.settings t
  match i.command with
  | .audit command => command.run t c styled
  | .extract command => command.run t c
  | .merge command => command.run t c
  | .rank command => command.run t c

/-! ## Whole runs -/

/-- The exit code of a run and what it leaves. -/
structure Exit where
  code : Nat
  outcome : Outcome
  deriving Inhabited

/-- The names of the commands, as help. -/
def helpText : String :=
  let names := ", ".intercalate (Command.all.map (·.1))
  s!"Usage: {programName} [OPTIONS] <COMMAND>\n\nCommands: {names}\n"

/-- What is printed instead of a run. -/
def UsageFault.exit (f : UsageFault) (t : FileTree) : Exit :=
  match f with
  | .help => { code := 0, outcome := { tree := t, output := helpText } }
  | .version => { code := 0, outcome := { tree := t, output := s!"{programName} {versionText}\n" } }
  | _ => { code := 2, outcome := { tree := t, errors := helpText } }

/-- Runs a command line. -/
def execute (t : FileTree) (environment : Option String) (arguments : List String) (styled : Bool) :
    Noted Exit := do
  match Invocation.read environment arguments with
  | .error fault => return fault.exit t
  | .ok invocation =>
    match ← (invocation.run t styled).run with
    | .ok outcome => return { code := 0, outcome }
    | .error failure => return { code := 1, outcome := { tree := t, errors := failure.text } }

end CommandLine

end RefactorAudit

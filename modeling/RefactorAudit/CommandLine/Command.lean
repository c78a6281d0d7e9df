-- SUMMARY: The commands of the program.
import RefactorAudit.CommandLine.Arguments
import RefactorAudit.Report.Source

/-!
# Commands

Some parameters belong to every command; they may stand before and behind its name, and what stands
behind it counts. The configuration file may also be named by the environment.
-/

namespace RefactorAudit.CommandLine

/-- Audits a file or a directory. -/
structure AuditCommand where
  original : Option String
  refactored : String
  /-- Whether directories are audited. -/
  all : Bool
  tests : Option String
  coverage : Option String
  threshold : Option Nat
  complexMethods : Bool
  missingTests : Bool
  json : Bool
  output : Option String
  deriving DecidableEq, Repr, Inhabited

/-- Prints the methods of a file. -/
structure ExtractCommand where
  file : String
  coverage : Option String
  deriving DecidableEq, Repr, Inhabited

/-- Merges reports. -/
structure MergeCommand where
  /-- The reports with their sources, in the order of merging. -/
  reports : List (Report.Source × String)
  output : Option String
  /-- Whether the ranking is printed too. -/
  rank : Bool
  deriving DecidableEq, Repr, Inhabited

/-- Ranks the files of a merged report. -/
structure RankCommand where
  merged : String
  /-- How many files are shown at most. -/
  top : Option Nat
  json : Bool
  deriving DecidableEq, Repr, Inhabited

inductive Command where
  | audit (command : AuditCommand)
  | extract (command : ExtractCommand)
  | merge (command : MergeCommand)
  | rank (command : RankCommand)
  deriving DecidableEq, Repr, Inhabited

/-- A command with the parameters of all commands. -/
structure Invocation where
  command : Command
  verbosity : Nat
  config : Option String
  marker : Option String
  repoRoot : Option String
  jobs : Option Nat
  deriving DecidableEq, Repr, Inhabited

/-! ## Parameters -/

def programName : String := "refactorguard"

def versionText : String := "0.1.0"

/-- The parameters of every command. -/
def commonParameters : List Parameter :=
  [{ name := "verbose", letter := some 'v', kind := .count },
    { name := "config", kind := .path },
    { name := "root-marker", kind := .text },
    { name := "repo-root", kind := .path },
    { name := "jobs", letter := some 'j', kind := .number Text.limit64 false }]

namespace AuditCommand

def parameters : List Parameter :=
  [{ name := "original", kind := .path },
    { name := "refactored", kind := .path, required := true },
    { name := "all", kind := .flag },
    { name := "tests", kind := .path },
    { name := "coverage-path", kind := .path },
    { name := "complexity-threshold", kind := .number Text.limit32 true },
    { name := "complexity-warnings", kind := .flag },
    { name := "missing-tests", kind := .flag },
    { name := "json", kind := .flag },
    { name := "output", letter := some 'o', kind := .path }]

def ofGiven (given : Table Given) : AuditCommand :=
  { original := Given.text? given "original"
    refactored := (Given.text? given "refactored").getD ""
    all := (given.get? "all").isSome
    tests := Given.text? given "tests"
    coverage := Given.text? given "coverage-path"
    threshold := Given.number? given "complexity-threshold"
    complexMethods := (given.get? "complexity-warnings").isSome
    missingTests := (given.get? "missing-tests").isSome
    json := (given.get? "json").isSome
    output := Given.text? given "output" }

end AuditCommand

namespace ExtractCommand

def parameters : List Parameter :=
  [{ name := "file", kind := .path, required := true, unnamed := true },
    { name := "coverage-path", kind := .path }]

def ofGiven (given : Table Given) : ExtractCommand :=
  { file := (Given.text? given "file").getD "", coverage := Given.text? given "coverage-path" }

end ExtractCommand

namespace MergeCommand

def parameters : List Parameter :=
  Report.Source.all.map (fun source => { name := source.name, kind := .path })
    ++ [{ name := "output", letter := some 'o', kind := .path }, { name := "rank", kind := .flag }]

def ofGiven (given : Table Given) : MergeCommand :=
  { reports := Report.Source.all.filterMap fun source =>
      (Given.text? given source.name).map fun path => (source, path)
    output := Given.text? given "output"
    rank := (given.get? "rank").isSome }

end MergeCommand

namespace RankCommand

def parameters : List Parameter :=
  [{ name := "merged", kind := .path, required := true, unnamed := true },
    { name := "top", kind := .number Text.limit64 false },
    { name := "json", kind := .flag }]

def ofGiven (given : Table Given) : RankCommand :=
  { merged := (Given.text? given "merged").getD ""
    top := Given.number? given "top"
    json := (given.get? "json").isSome }

end RankCommand

namespace Command

/-- The commands with their names: their own parameters, and what these give. -/
def all : List (String × List Parameter × (Table Given → Command)) :=
  [("audit", AuditCommand.parameters, fun given => audit (.ofGiven given)),
    ("extract", ExtractCommand.parameters, fun given => extract (.ofGiven given)),
    ("merge", MergeCommand.parameters, fun given => merge (.ofGiven given)),
    ("rank", RankCommand.parameters, fun given => rank (.ofGiven given))]

end Command

/-! ## Reading -/

/-- The name under which help on a command is asked for. -/
def helpName : String := "help"

/-- What can be given before the name of a command. -/
def outerInterface : Interface :=
  { parameters := commonParameters
    commands := Command.all.map (·.1) ++ [helpName]
    hasVersion := true }

/-- What can be given behind the name of a command. -/
def innerInterface (parameters : List Parameter) : Interface :=
  { parameters := parameters ++ commonParameters }

/-- What is said about a request for help. -/
def helpOn (names : List String) : UsageFault :=
  match names with
  | [] => .help
  | [name] => if outerInterface.commands.contains name then .help else .unknownCommand
  | _ => .unknownCommand

/-- Takes up what is pending. The configuration file that the environment names has to have a name
if no other one is given. -/
def finish (environment : Option String) (d : Draft) : Except UsageFault (Table Given) := do
  let d ← d.settle
  if (d.given.get? "config").isNone && environment = some "" then throw .missingValue
  return d.given

/-- What is given behind the name of a command. -/
def readInner (environment : Option String) (parameters : List Parameter)
    (arguments : List String) : Except UsageFault (Table Given) := do
  let interface := innerInterface parameters
  let (draft, _) ← Draft.read interface {} arguments
  let given ← finish environment draft
  if interface.isComplete given then return given else throw .missingArgument

/-- The parameters of every command: those behind its name count more than those before it. -/
def Invocation.ofGiven (environment : Option String) (command : Command)
    (outer inner : Table Given) : Invocation :=
  let text (name : String) := (Given.text? inner name).or (Given.text? outer name)
  { command
    verbosity := ((Given.times? inner "verbose").or (Given.times? outer "verbose")).getD 0
    config := (text "config").or environment
    marker := text "root-marker"
    repoRoot := text "repo-root"
    jobs := (Given.number? inner "jobs").or (Given.number? outer "jobs") }

/-- What a command line asks for. The environment may name a configuration file. -/
def Invocation.read (environment : Option String) (arguments : List String) :
    Except UsageFault Invocation := do
  let (draft, next) ← Draft.read outerInterface {} arguments
  match next with
  | none =>
    let given ← finish environment draft
    throw (if given.isEmpty && environment.isNone then .nothingGiven else .missingCommand)
  | some (name, rest) =>
    match Command.all.lookup name with
    | none => throw (helpOn rest)
    | some (parameters, command) =>
      let inner ← readInner environment parameters rest
      let outer ← finish environment draft
      return ofGiven environment (command inner) outer inner

/-- The file that a command writes, if it writes one. -/
def Command.output? : Command → Option String
  | audit a => a.output
  | merge m => m.output
  | extract _ | rank _ => none

/-- The paths that a command is about. -/
def Command.paths : Command → List String
  | audit a =>
    a.refactored :: [a.original, a.tests, a.coverage, a.output].filterMap id
  | extract e => e.file :: e.coverage.toList
  | merge m => m.reports.map (·.2) ++ m.output.toList
  | rank r => [r.merged]

/-- The paths that a run is about. -/
def Invocation.paths (i : Invocation) : List String := i.config.toList ++ i.command.paths

/-- The level of the messages that are logged. -/
def Invocation.logLevel (i : Invocation) : String :=
  match i.verbosity with
  | 0 => "warn"
  | 1 => "info"
  | 2 => "debug"
  | _ => "trace"

end RefactorAudit.CommandLine

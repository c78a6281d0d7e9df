-- SUMMARY: What can go wrong with a file, a report or the configuration.

/-!
# Faults

A fault names its cause and the path it concerns; `Fault.message` is its wording. Faults of one
source file are recorded in the audit of that file, faults of a report or of the configuration end
the run.
-/

namespace RefactorAudit

/-- Why the file system refuses to read or write a file. -/
inductive Refusal where
  | absent
  | isDirectory
  | notDirectory
  /-- The file is read, and does not hold text. -/
  | notText
  | other (message : String)
  deriving DecidableEq, Repr, Inhabited

def Refusal.message : Refusal → String
  | absent => "No such file or directory (os error 2)"
  | isDirectory => "Is a directory (os error 21)"
  | notDirectory => "Not a directory (os error 20)"
  | notText => "stream did not contain valid UTF-8"
  | other message => message

inductive Fault where
  /-- A source file that is not well formed, and the line of the first fault in it. -/
  | malformedSource (path : String) (line : Nat) (message : String)
  | notFound (path : String)
  | malformedReport (path : String) (message : String)
  /-- A file that no entry of a coverage report belongs to. -/
  | uncovered (path : String)
  | refused (path : String) (refusal : Refusal)
  | configuration (message : String)
  deriving DecidableEq, Repr, Inhabited

namespace Fault

def message : Fault → String
  | malformedSource path line message => s!"Parse error in {path}:{line}: {message}"
  | notFound path => s!"File not found: {path}"
  | malformedReport path message => s!"Invalid report format in {path}: {message}"
  | uncovered path => s!"No coverage entry matches {path}"
  | refused path refusal =>
    let reason := refusal.message
    s!"I/O error on {path}: {reason}"
  | configuration message => s!"Configuration error: {message}"

/-- The fault of a file that is refused; a file that is absent is not found. -/
def ofRefusal (path : String) : Refusal → Fault
  | .absent => notFound path
  | refusal => refused path refusal

end Fault

end RefactorAudit

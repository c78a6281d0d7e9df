-- SUMMARY: Warnings, and results that come with warnings.
import RefactorAudit.Fault

/-!
# Warnings

What is passed over without ending the run is told in a warning. A `Noted` result is a value with
the warnings that were given on the way to it, in order.
-/

namespace RefactorAudit

inductive Warning where
  /-- Names that occur more than once in a source file. -/
  | repeatedNames (path : String) (names : List String)
  /-- Findings of a report that name no file. -/
  | pathlessFindings (count : Nat) (origin : String)
  | skippedTests (fault : Fault)
  | noTests
  /-- A source file that could not be audited. -/
  | unaudited (fault : Fault)
  | unauditedCount (count total : Nat)
  | invalidWeights (message : String)
  /-- A configuration file that is passed over because it is not well formed. A message that is
  told to its end is followed by what is done instead; of a longer one the first line is told. -/
  | invalidConfiguration (message : String)
  | unreadableConfiguration (path : String) (refusal : Refusal)
  /-- An exclude pattern, quoted, that is not well formed. -/
  | invalidExclude (pattern message : String)
  | unreadableEntry (root message : String)
  | missingCoverage (path : String)
  | missingTests (path : String)
  deriving DecidableEq, Repr, Inhabited

def Warning.message : Warning → String
  | repeatedNames path names =>
    let list := ", ".intercalate names
    s!"Duplicate qualified names in {path}: {list}"
  | pathlessFindings count origin => s!"Skipped {count} findings without a file path in {origin}"
  | skippedTests fault =>
    let message := fault.message
    s!"Skipping test file: {message}"
  | noTests => "No test corpus given; skipping missing-test detection"
  | unaudited fault => fault.message
  | unauditedCount count total => s!"{count} of {total} files could not be analyzed"
  | invalidWeights message => s!"Invalid severity weights: {message}. Using defaults."
  | invalidConfiguration message =>
    if message.endsWith "\n" then s!"{message}. Using defaults." else message
  | unreadableConfiguration path refusal =>
    let message := refusal.message
    s!"Failed to read config file {path}: {message}"
  | invalidExclude pattern message => s!"Ignoring invalid exclude pattern {pattern}: {message}"
  | unreadableEntry root message => s!"Skipping unreadable entry under {root}: {message}"
  | missingCoverage path => s!"Coverage report {path} not found; treating every file as uncovered"
  | missingTests path => s!"Test path {path} not found; no test references available"

/-- A value and the warnings that were given on the way to it. -/
structure Noted (α : Type) where
  value : α
  warnings : List Warning := []
  deriving Inhabited

namespace Noted

variable {α β : Type}

instance : Monad Noted where
  pure a := { value := a }
  bind x f :=
    let y := f x.value
    { value := y.value, warnings := x.warnings ++ y.warnings }

instance : LawfulMonad Noted := LawfulMonad.mk' Noted
  (fun _ => by simp [Functor.map])
  (fun _ _ => by simp [Bind.bind, pure])
  (fun _ _ _ => by simp [Bind.bind, List.append_assoc])

/-- Gives a warning. -/
def warn (w : Warning) : Noted Unit := { value := (), warnings := [w] }

@[simp] theorem value_pure (a : α) : (pure a : Noted α).value = a := rfl

@[simp] theorem value_bind (x : Noted α) (f : α → Noted β) :
    (x >>= f).value = (f x.value).value := rfl

@[simp] theorem value_map (f : α → β) (x : Noted α) : (f <$> x).value = f x.value := rfl

/-- The values of a traversal are those of its steps. -/
theorem value_mapM (f : α → Noted β) (xs : List α) :
    (xs.mapM f).value = xs.map fun x => (f x).value := by
  induction xs with
  | nil => rfl
  | cons x rest ih => simp [List.mapM_cons, ih]

end Noted

/-- A result that a fault may prevent, with the warnings given on the way. -/
abbrev Attempt := ExceptT Fault Noted

end RefactorAudit

-- SUMMARY: What the audit of a source file finds.
import RefactorAudit.Audit.Corpus
import RefactorAudit.Audit.Diff
import RefactorAudit.Coverage.Attribution

/-!
# Findings

The audit of one file compares it with its original, flags the methods whose complexity is above a
threshold, and lists the public methods that no test mentions, the removed ones included.
-/

namespace RefactorAudit.Audit

structure Options where
  /-- Methods above this complexity are flagged. -/
  threshold : Nat := 10
  /-- How private names begin. -/
  privateMark : String := "_"
  deriving DecidableEq, Repr, Inhabited

/-- What is found in one file. -/
structure Entry (α : Type := Float) where
  methods : List (Method α) := []
  /-- The comparison with the original, if there is one. -/
  diff : Option Diff := none
  /-- Public methods that no test mentions. -/
  missingTests : List String := []
  /-- Methods above the threshold. -/
  complexMethods : List String := []
  /-- Names that occur more than once. -/
  collisions : List String := []
  /-- Why the file could not be audited. -/
  fault : Option String := none
  deriving Inhabited

variable {α : Type}

/-- The elements of a list, each where it stands first. -/
def firsts : List String → List String
  | [] => []
  | x :: rest => x :: (firsts rest).filter (· ≠ x)

/-- The names of the methods above a threshold, in order. -/
def complexMethods (s : Snapshot α) (threshold : Nat) : List String :=
  firsts ((s.methods.filter fun m => threshold < m.complexity).map (·.name))

/-- The public methods that no test mentions: those of the snapshot in order, then the removed
ones. -/
def missingTests (s : Snapshot α) (diff : Option Diff) (corpus : Corpus) (privateMark : String) :
    List String :=
  let current := s.methods.map (·.name)
  let removed := (diff.map (·.missing)).getD []
  (firsts ((current ++ removed).filter fun n => !Names.isPrivate privateMark n)).filter
    fun n => !corpus.references n

/-- The audit of one file. Coverage is attributed if there is an index; tests are looked for if
there is a corpus. -/
def analyze [Figure α] (original : Option (Snapshot α)) (refactored : Snapshot α)
    (coverage : Option (Coverage.Index α)) (tests : Option Corpus) (options : Options) : Entry α :=
  let snapshot :=
    match coverage with
    | some index => refactored.annotate index
    | none => refactored
  let diff := original.map fun before => Diff.between before refactored
  { methods := snapshot.methods
    diff
    missingTests :=
      match tests with
      | some corpus => missingTests snapshot diff corpus options.privateMark
      | none => []
    complexMethods := complexMethods snapshot options.threshold
    collisions := snapshot.collisions }

/-- The entry of a file that could not be audited. -/
def Entry.failed (message : String) : Entry α := { fault := some message }

end RefactorAudit.Audit

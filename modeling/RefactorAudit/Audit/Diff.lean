-- SUMMARY: Which methods a refactoring removed and which it added.
import RefactorAudit.Snapshot

/-!
# Differences

Two snapshots are compared by the names of their methods. Lines, complexity, order and repetition
play no part.
-/

namespace RefactorAudit

/-- The names that only one of two snapshots has, each list ascending. -/
structure Diff where
  missing : List String
  added : List String
  deriving DecidableEq, Repr, Inhabited

namespace Diff

variable {α : Type}

/-- What is missing after a change, and what was added by it. -/
def between (before after : Snapshot α) : Diff where
  missing := before.names.filter fun n => n ∉ after.names
  added := after.names.filter fun n => n ∉ before.names

def isEmpty (d : Diff) : Bool := d.missing.isEmpty && d.added.isEmpty

end Diff

end RefactorAudit

-- SUMMARY: The branching complexity of a function.
import RefactorAudit.Python.SyntaxTree

/-!
# Complexity

The complexity of a function is one more than the number of decision points in its body. Functions
inside it count towards it.
-/

namespace RefactorAudit.Python

/-- The kinds of nodes at which the flow of control divides. -/
def decisionKinds : List String :=
  ["if_statement", "elif_clause", "for_statement", "while_statement", "except_clause",
   "except_group_clause", "with_statement", "boolean_operator", "case_clause"]

def isDecision (kind : String) : Bool := decisionKinds.contains kind

namespace SyntaxTree

mutual

/-- The decision points below a node. -/
def decisionsBelow : SyntaxTree → Nat
  | node _ cs => decisionsAmong cs

/-- The decision points in a list of trees. -/
def decisionsAmong : List SyntaxTree → Nat
  | [] => 0
  | c :: rest => (if isDecision c.kind then 1 else 0) + c.decisionsBelow + decisionsAmong rest

end

/-- The complexity of a function. A function without body is counted as a whole. -/
def complexity (t : SyntaxTree) : Nat := 1 + ((t.child? "body").getD t).decisionsBelow

end SyntaxTree

end RefactorAudit.Python

import CodeAudit.Node.Basic
import CodeAudit.Severity

/-!
# Diagnostics

A `Diagnostic` is a finding with everything a reader needs: which rule, how bad, what, where and in
which function. A `Report` collects them in the order they come in.
-/

namespace CodeAudit

/-- One finding of a scan. -/
structure Diagnostic where
  ruleId : String
  severity : Severity
  message : String
  loc : Location
  /-- The enclosing function, if the finding is inside one. -/
  function : Option String
deriving DecidableEq

namespace Diagnostic

/-- The written form: severity, function, message and place. -/
def render (d : Diagnostic) : String :=
  let function := match d.function with
    | some name => name ++ " "
    | none => ""
  d.severity.label ++ ": " ++ function ++ d.message ++ " (" ++ d.loc.render ++ ")"

end Diagnostic

/-- The diagnostics of a scan in the order they were recorded. -/
structure Report where
  diagnostics : Array Diagnostic := #[]

namespace Report

/-- Adds a diagnostic at the end. -/
def record (r : Report) (d : Diagnostic) : Report := ⟨r.diagnostics.push d⟩

/-- The number of diagnostics. -/
def size (r : Report) : Nat := r.diagnostics.size

/-- The diagnostics in order. -/
def toList (r : Report) : List Diagnostic := r.diagnostics.toList

@[simp] theorem toList_record (r : Report) (d : Diagnostic) :
    (r.record d).toList = r.toList ++ [d] := by
  simp [record, toList]

end Report

end CodeAudit

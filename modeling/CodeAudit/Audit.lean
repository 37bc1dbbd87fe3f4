import CodeAudit.Rule.Registry
import CodeAudit.Source.Meaning

/-!
# Audits of sources

An audit reads a source and scans it. Everything that can go wrong on the way, from the settings to
the scan, is an `AuditError`.
-/

namespace CodeAudit

/-- Why an audit has no result. -/
inductive AuditError where
  /-- A file or directory cannot be read or written. -/
  | unreadable
  /-- The settings are not written as settings are. -/
  | malformedSettings
  | ruleSet (error : RuleSetError)
  | source (error : SourceError)
  /-- Only a whole module can be scanned. -/
  | notAModule (kind : Kind)
  /-- A severity was asked for that there is not; its name in lower case. -/
  | unknownSeverity (name : String)

namespace AuditError

/-- What is told to the user. -/
def message : AuditError → String
  | unreadable => "I/O error"
  | malformedSettings => "config error"
  | ruleSet e => e.message
  | source .unparsable => "syntax error"
  | source (.notUtf8 fault) => "input error: source is not UTF-8: " ++ fault.message
  | notAModule kind => "input error: expected a module at the root, found " ++ kind.label
  | unknownSeverity name => "other: unknown severity `" ++ name ++ "`"

end AuditError

namespace Registry

/-- Scans a tree. -/
def auditTree (g : Registry) (root : Node) : Except AuditError (List Diagnostic) :=
  (g.scan root).mapError .notAModule

/-- Reads and scans a source. -/
def auditSource (g : Registry) (bytes : ByteArray) : Except AuditError (List Diagnostic) :=
  match Node.ofSource bytes with
  | .ok root => g.auditTree root
  | .error e => .error (.source e)

end Registry

/-- Whether more than one byte in a hundred is zero, where fractions of a percent do not count. -/
def looksBinary (bytes : ByteArray) : Bool :=
  let zeros := bytes.data.foldl (fun n b => if b == 0 then n + 1 else n) 0
  zeros * 100 / max bytes.size 1 > 1

end CodeAudit

import CodeAudit.Audit
import CodeAudit.Command.Style
import CodeAudit.Files.Discovery

/-!
# Scanning a tree of files

All sources from a start on are audited. What the audits come to is collected as they end, in any
order. The findings are shown file by file in the order of the paths, without those that are not severe
enough, and up to a largest number. Whether the run fails is decided by all findings, also by those
that are not shown.
-/

namespace CodeAudit

/-- A finding in a file. -/
structure LocatedDiagnostic where
  path : String
  diagnostic : Diagnostic

/-- What an audit of many files comes to. -/
structure ScanSummary where
  findings : List LocatedDiagnostic
  /-- The number of files that were audited. -/
  files : Nat
  /-- The number of files that could not be read. -/
  failures : Nat

/-- What the audits that have ended came to. -/
structure Collected where
  /-- The findings in each file, in the order in which the audits ended. -/
  done : List (String × List Diagnostic) := []
  /-- The number of files that could not be read. -/
  failures : Nat := 0

namespace Collected

/-- Takes in how the audit of a file ended. -/
def add (c : Collected) (path : String) : Except AuditError (List Diagnostic) → Collected
  | .ok found => { c with done := c.done ++ [(path, found)] }
  | .error _ => { c with failures := c.failures + 1 }

/-- What all audits come to once they have ended: the findings by the order of the paths. -/
def summary (c : Collected) : ScanSummary :=
  let byPath := c.done.mergeSort fun a b => a.1 ≤ b.1
  { findings := byPath.flatMap fun entry => entry.2.map fun d => ⟨entry.1, d⟩
    files := byPath.length
    failures := c.failures }

end Collected

/-- How a run ends. -/
inductive ExitStatus where
  | success
  /-- There are findings that are severe enough. -/
  | findings
  /-- Not everything could be audited. -/
  | failure
deriving DecidableEq

/-- The number that is told to the caller. -/
def ExitStatus.code : ExitStatus → Nat
  | success => 0
  | findings => 1
  | failure => 2

namespace Registry

/-- Audits a file by its content. Files that are no sources and files that look binary have no
findings. -/
def auditContent (g : Registry) (content : ByteArray) : Except AuditError (List Diagnostic) :=
  if looksBinary content then .ok [] else g.auditSource content

/-- Audits the file that a path means. A file that is no source need not be there. -/
def auditFile (g : Registry) (files : FileTree) (path : String) :
    Except AuditError (List Diagnostic) :=
  match SourceExtension.ofPath? path with
  | none => .ok []
  | some _ =>
    match files.read? path with
    | some content => g.auditContent content
    | none => .error .unreadable

/-- Audits a source that was found. -/
def auditFound (g : Registry) (files : FileTree) (source : FoundSource) :
    Except AuditError (List Diagnostic) :=
  match files.contentAt? source.route with
  | some content => g.auditContent content
  | none => .error .unreadable

/-- Takes in the audit of a source that was found. -/
def collect (g : Registry) (files : FileTree) (c : Collected) (source : FoundSource) : Collected :=
  c.add source.path (g.auditFound files source)

/-- Audits the sources that a search finds, one after the other as they are found. -/
def auditAll (g : Registry) (search : SourceSearch) (shown : String) (start : Route) : ScanSummary :=
  ((search.found shown start).foldl (g.collect search.files) {}).summary

end Registry

/-- The findings that are shown. -/
def selectFindings (settings : Settings) (found : List LocatedDiagnostic) :
    List LocatedDiagnostic :=
  let severe := found.filter fun f => f.diagnostic.severity.atLeast settings.scanner.minSeverity
  match settings.output.maxResults with
  | some limit => severe.take limit.toNat
  | none => severe

/-- How a run over files ends. A failure outranks findings: what was not read is not audited. -/
def exitStatus (failed : Bool) (failures : Nat) (ignoreFailures : Bool) : ExitStatus :=
  if failures > 0 && !ignoreFailures then .failure
  else if failed then .findings
  else .success

/-- A finding as it is shown. -/
def LocatedDiagnostic.render (colors : Bool) (format : OutputFormat) (f : LocatedDiagnostic) :
    String :=
  let d := f.diagnostic
  match format with
  | .plain => f.path ++ ": " ++ d.render
  | .console =>
    let function := match d.function with
      | some name => Style.paint colors { color := some .white, bold := true } name ++ " "
      | none => ""
    Style.paint colors { color := some .blue, underlined := true } f.path ++ ":" ++ d.loc.render ++
      "  [" ++ d.severity.style.paint colors d.severity.label ++ "]  " ++
      Style.paint colors { bold := true } d.ruleId ++ "  " ++ function ++ d.message

end CodeAudit

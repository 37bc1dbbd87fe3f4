import CodeAudit.Proofs.Overrides
import CodeAudit.Proofs.Schedules

/-!
# How a scan ends

A scan fails if a source cannot be audited, unless this is to be ignored; otherwise it is the findings
that decide, all of them and not only those that are shown. Both are said here about the sources and
not about the summary: a source is unscannable because of its content, and something is reported in it
because of the rules. That more files or more rules never make the end better is then a matter of
logic.
-/

namespace CodeAudit

/-- Why a source cannot be audited. What looks binary is not read at all. -/
inductive Unscannable (files : FileTree) (source : FoundSource) : Prop
  | missing (gone : files.contentAt? source.route = none)
  | undecodable {content : ByteArray} {fault : Utf8.Fault}
      (there : files.contentAt? source.route = some content) (text : looksBinary content = false)
      (decoded : Utf8.decode content = .error fault)
  | unparsable {content : ByteArray} {chars : Array Char}
      (there : files.contentAt? source.route = some content) (text : looksBinary content = false)
      (decoded : Utf8.decode content = .ok chars) (parsed : Tree.ofSource? (.ofChars chars) = none)

theorem Unscannable.text {files : FileTree} {source : FoundSource} {content : ByteArray}
    (h : Unscannable files source) (there : files.contentAt? source.route = some content) :
    looksBinary content = false := by
  cases h with
  | missing gone => cases gone.symm.trans there
  | undecodable there' text => exact Option.some.inj (there'.symm.trans there) ▸ text
  | unparsable there' text => exact Option.some.inj (there'.symm.trans there) ▸ text

namespace Registry

variable (g : Registry) (files : FileTree) (source : FoundSource)

variable {g files source}

variable {found : List FoundSource}

end Registry

/-! ### What decides about the end -/

/-- A run fails if it is broken, and otherwise it is the findings that decide. -/
structure ExitStatus.Tells (status : ExitStatus) (broken failing : Prop) : Prop where
  failure : status.code = 2 ↔ broken
  findings : status.code = 1 ↔ ¬ broken ∧ failing
  success : status.code = 0 ↔ ¬ broken ∧ ¬ failing

namespace ExitStatus

variable {status status' : ExitStatus} {broken broken' failing failing' : Prop}

/-- A run in which more goes wrong does not end better. -/
theorem Tells.mono (h : status.Tells broken failing) (h' : status'.Tells broken' failing')
    (hbroken : broken → broken') (hfailing : failing → failing') : status.code ≤ status'.code := by
  cases status with
  | success => exact Nat.zero_le _
  | findings =>
    have hsome := hfailing (h.findings.mp rfl).2
    exact Nat.one_le_iff_ne_zero.mpr fun hnone => (h'.success.mp hnone).2 hsome
  | failure => exact (h'.failure.mpr (hbroken (h.failure.mp rfl))).ge

end ExitStatus

/-! ### What a search looks at -/

/-- The sources that a scan finds. -/
def Workplace.sources (w : Workplace) (settings : Settings) (start : Route) : List FoundSource :=
  (SourceSearch.ofSettings w.files settings.scanner).found (w.shown start) start

namespace RuleSettings

variable {s : RuleSettings} {disabled : List String} {flag : Bool}

end RuleSettings

namespace LoneSource

/-- A place with one source in it. -/
def workplace (content : ByteArray) : Workplace where
  files := .directory [("a.py", .file content)]
  base := "top"
  here := []
  settingsDir := []
  colors := false

def settings : Settings := { rules := .blank }

def given : GivenArguments := { path := some "a.py" }

variable (content : ByteArray)

theorem locate? : (workplace content).locate? (given.path.getD ".") = some ["a.py"] := by
  have hnames : FileTree.names "a.py" = ["a.py"] := by decide +kernel
  have hrelative : "a.py".startsWith "/" = false := by decide +kernel
  simp [given, Workplace.locate?, hrelative, FileTree.resolve?, hnames, FileTree.follow?, workplace,
    FileTree.get?]

theorem sources : (workplace content).sources settings ["a.py"] = [⟨"top/a.py", ["a.py"]⟩] := by
  have hshown : (workplace content).shown ["a.py"] = "top/a.py" := by
    rw [show (workplace content).shown ["a.py"] = "/".intercalate ["top", "a.py"] from rfl]
    decide +kernel
  have hextension : (SourceExtension.ofPath? "top/a.py").isSome = true := by decide +kernel
  rw [Workplace.sources, hshown]
  simp [SourceSearch.ofSettings, SourceSearch.found, workplace, FileTree.get?, FileTree.entries,
    SourceSearch.wants, hextension, settings]

/-- Whether bytes are no text can be computed. -/
theorem undecodable (h : (Utf8.decode content).toOption.isNone) :
    ∃ fault, Utf8.decode content = .error fault := by
  cases hdecode : Utf8.decode content with
  | error fault => exact ⟨fault, rfl⟩
  | ok chars => simp [hdecode, Except.toOption] at h

end LoneSource

open LoneSource

end CodeAudit

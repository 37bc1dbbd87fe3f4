import CodeAudit.Command.Arguments
import CodeAudit.Command.Listing
import CodeAudit.Command.Scan
import CodeAudit.Settings.Families
import CodeAudit.Settings.Load

/-!
# Running a command

A run takes the files around it as a value. It yields what it prints, how it ends and the files after
it, for it may write an example of a settings file.
-/

namespace CodeAudit

/-- What is printed, line by line. -/
structure Transcript where
  out : List String := []
  err : List String := []

namespace Transcript

/-- One printed text after another. -/
def append (a b : Transcript) : Transcript := ⟨a.out ++ b.out, a.err ++ b.err⟩

end Transcript

/-- Where a command runs. -/
structure Workplace where
  files : FileTree
  /-- The path of the top of the tree, as it is shown; empty if nothing lies above it. -/
  base : String
  /-- The directory from which paths start. -/
  here : Route
  /-- The directory for settings. -/
  settingsDir : Route
  /-- Whether the terminal shows colours. -/
  colors : Bool

namespace Workplace

/-- A route as it is shown. -/
def shown (w : Workplace) (route : Route) : String := "/".intercalate (w.base :: route)

/-- The route without links to what a path means. -/
def locate? (w : Workplace) (path : String) : Option Route :=
  if path.isEmpty then none
  else if path.startsWith "/" then
    if w.base.isEmpty then w.files.resolve? [] path else none
  else w.files.resolve? w.here path

end Workplace

/-- What a run comes to. -/
structure CommandRun where
  transcript : Transcript
  result : Except AuditError ExitStatus
  files : FileTree

/-- The note about settings in the settings directory. -/
def settingsNote (w : Workplace) (own : Bool) : List String :=
  let note := Style.paint w.colors { color := some .green, bold := true } "note"
  let path := Style.paint w.colors { color := some .white, bold := true, underlined := true }
    (w.shown (w.settingsDir ++ [Settings.userFile]))
  if own then [note ++ ": Loaded user config from: " ++ path, ""]
  else
    [note ++ ": Using " ++ Style.paint w.colors { bold := true } "default" ++ " configuration.",
      "      Create file in '" ++ path ++ "' to customize.", ""]

/-- Settings that were loaded, with the lines about it and the files after it. -/
structure LoadedSettings where
  settings : Settings
  note : List String
  files : FileTree

/-- Loads the settings from the settings directory. -/
def loadSettings (w : Workplace) : Except AuditError LoadedSettings := do
  let files := Settings.writeExample w.files w.settingsDir
  let user ← Settings.userSettings? files w.settingsDir
  let settings := match user with
    | some s => Settings.merge {} s
    | none => {}
  .ok ⟨settings, settingsNote w user.isSome, files⟩

/-- Loads the settings for a command line. -/
def settingsFor (w : Workplace) (config : Option String) : Except AuditError LoadedSettings :=
  match config with
  | some path =>
    match (w.locate? path).bind w.files.contentAt? with
    | some content => (Settings.ofContent content).map fun settings => ⟨settings, [], w.files⟩
    | none => .error .unreadable
  | none => loadSettings w

/-- Settings with what a command line says about a scan. -/
def GivenArguments.adjust (given : GivenArguments) (s : Settings) : Settings :=
  let minSeverity :=
    if given.highOnly then .high else given.minSeverity.getD s.scanner.minSeverity
  { s with
    scanner := { s.scanner with
      minSeverity
      failOn := given.failOn.getD s.scanner.failOn
      ignoreFileErrors := given.ignoreFileErrors || s.scanner.ignoreFileErrors }
    output := { s.output with defaultFormat := given.format.getD s.output.defaultFormat } }

/-- What a scan prints and how it ends. -/
def reportScan (colors : Bool) (settings : Settings) (summary : ScanSummary) :
    Transcript × ExitStatus :=
  let failed := summary.findings.any fun f =>
    f.diagnostic.severity.atLeast settings.scanner.failOn
  let shown := selectFindings settings summary.findings
  let findings : Transcript :=
    if settings.output.quiet then {}
    else
      { out := shown.map (·.render colors settings.output.defaultFormat)
        err := [Style.paint colors { bold := true } "Scanned:" ++ " " ++ toString shown.length ++
          " finding(s) in " ++ toString summary.files ++ " file(s)"] }
  let warning : Transcript :=
    if summary.failures = 0 then {}
    else
      { err := [Style.paint colors { color := some .yellow, bold := true } "warning:" ++ " " ++
          toString summary.failures ++ " file(s) could not be scanned"] }
  (findings.append warning, exitStatus failed summary.failures settings.scanner.ignoreFileErrors)

/-- Carries out a command with settings. -/
def runCommand (w : Workplace) (settings : Settings) :
    Command → Except AuditError (Transcript × ExitStatus)
  | .scan given => do
    let settings := given.adjust settings
    let registry ← settings.rules.build.mapError .ruleSet
    match w.locate? (given.path.getD ".") with
    | none => .error .unreadable
    | some start =>
      let search := SourceSearch.ofSettings w.files settings.scanner
      .ok (reportScan w.colors settings (registry.auditAll search (w.shown start) start))
  | .list verbose => do
    let registry ← settings.rules.build.mapError .ruleSet
    .ok ({ out := ruleListing w.colors verbose registry }, .success)

/-- Runs a command line. -/
def CommandLine.run (c : CommandLine) (w : Workplace) : CommandRun :=
  match settingsFor w c.config with
  | .error e => ⟨{}, .error e, w.files⟩
  | .ok loaded =>
    let noted : Transcript := { err := loaded.note }
    match runCommand { w with files := loaded.files } loaded.settings c.command with
    | .ok (printed, status) => ⟨noted.append printed, .ok status, loaded.files⟩
    | .error e => ⟨noted, .error e, loaded.files⟩

end CodeAudit

import CodeAudit.Settings.Families

/-!
# The settings of a run

What is scanned, what is shown, how the work is shared out and which rules apply. `Settings.merge`
lays the settings of a user over the defaults: exclusions add up and everything else is the user's.
-/

namespace CodeAudit

/-- How findings are shown. -/
inductive OutputFormat where
  /-- Coloured, one line for each finding. -/
  | console
  /-- The path and the written form of the diagnostic. -/
  | plain
deriving DecidableEq, Inhabited

namespace OutputFormat

def name : OutputFormat → String
  | console => "console"
  | plain => "plain"

def ofName? : String → Option OutputFormat
  | "console" => some console
  | "plain" => some plain
  | _ => none

instance : Setting OutputFormat where
  read? v := (Setting.choice? v).bind ofName?
  write f := .text f.name

end OutputFormat

/-- What is scanned and what makes a run fail. -/
structure ScannerSettings where
  /-- Findings that are less severe are not shown. -/
  minSeverity : Severity := .low
  /-- A finding that is at least as severe makes the run fail. -/
  failOn : Severity := .high
  /-- Larger files are passed over. -/
  maxFileSizeMb : Option UInt64 := none
  /-- The names of directories whose contents are passed over. -/
  excludedDirectories : List String :=
    [".git", ".venv", "venv", "__pycache__", ".tox", "node_modules", "build", "dist"]
  followSymlinks : Bool := false
  scanHiddenFiles : Bool := false
  /-- Whether files that cannot be read are no reason to fail. -/
  ignoreFileErrors : Bool := false
deriving DecidableEq

namespace ScannerSettings

def fields : Section ScannerSettings where
  strict := false
  fields :=
    [.of "min_severity" minSeverity fun v s => { s with minSeverity := v },
      .of "fail_on" failOn fun v s => { s with failOn := v },
      .of "max_file_size_mb" maxFileSizeMb fun v s => { s with maxFileSizeMb := v },
      .of "excluded_directories" excludedDirectories
        fun v s => { s with excludedDirectories := v },
      .of "follow_symlinks" followSymlinks fun v s => { s with followSymlinks := v },
      .of "scan_hidden_files" scanHiddenFiles fun v s => { s with scanHiddenFiles := v },
      .of "ignore_file_errors" ignoreFileErrors fun v s => { s with ignoreFileErrors := v }]

instance : Setting ScannerSettings := fields.setting {}

end ScannerSettings

/-- What is shown. -/
structure OutputSettings where
  defaultFormat : OutputFormat := .console
  /-- Show no findings; only the exit code tells. -/
  quiet : Bool := false
  /-- The most findings to show. -/
  maxResults : Option UInt32 := none
deriving DecidableEq

namespace OutputSettings

def fields : Section OutputSettings where
  strict := false
  fields :=
    [.of "default_format" defaultFormat fun v s => { s with defaultFormat := v },
      .of "quiet" quiet fun v s => { s with quiet := v },
      .of "max_results" maxResults fun v s => { s with maxResults := v }]

instance : Setting OutputSettings := fields.setting {}

end OutputSettings

/-- How the work is shared out. -/
structure PerformanceSettings where
  workerThreads : Option UInt64 := none
  channelMultiplier : UInt64 := 4
  threadStackSize : UInt64 := 8388608
deriving DecidableEq

namespace PerformanceSettings

def fields : Section PerformanceSettings where
  strict := false
  fields :=
    [.of "worker_threads" workerThreads fun v s => { s with workerThreads := v },
      .of "channel_multiplier" channelMultiplier fun v s => { s with channelMultiplier := v },
      .of "rayon_thread_stack_size" threadStackSize fun v s => { s with threadStackSize := v }]

instance : Setting PerformanceSettings := fields.setting {}

end PerformanceSettings

/-- The settings of a run. -/
structure Settings where
  scanner : ScannerSettings := {}
  output : OutputSettings := {}
  performance : PerformanceSettings := {}
  rules : RuleSettings := {}

namespace Settings

def fields : Section Settings where
  strict := false
  fields :=
    [.of "scanner" scanner fun v s => { s with scanner := v },
      .of "output" output fun v s => { s with output := v },
      .of "performance" performance fun v s => { s with performance := v },
      .of "rules" rules fun v s => { s with rules := v }]

instance : Setting Settings := fields.setting {}

/-- Lays the settings of a user over the defaults. The exclusions of both count; everything else is
the user's. -/
def merge (default user : Settings) : Settings :=
  let excluded := default.scanner.excludedDirectories ++ user.scanner.excludedDirectories
  { user with
    scanner := { user.scanner with excludedDirectories := sortedDistinct excluded } }

end Settings

end CodeAudit

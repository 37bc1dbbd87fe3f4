import CodeAudit.Command.Run

/-!
# The program

The files that a command can reach are read into a value, the command is run on it, and what it prints
is printed. Only sources and lists of what to pass over are read with their content.
-/

namespace CodeAudit

/-- What is printed for a command line that is not carried out. -/
def usageText : String :=
  "A rule-based security auditor for Python sources\n\n" ++
  "Usage: astguard [--config <FILE>] <COMMAND>\n\n" ++
  "Commands:\n" ++
  "  scan [PATH]  Scan a file or directory of Python sources\n" ++
  "  list         List the rule catalog\n\n" ++
  "Options of scan:\n" ++
  "  -f, --format <FORMAT>          console or plain\n" ++
  "      --high-only                Show only high severity issues\n" ++
  "      --min-severity <SEVERITY>  Hide findings below this severity\n" ++
  "      --fail-on <SEVERITY>       Exit with status 1 when a finding is at least this severe\n" ++
  "      --ignore-file-errors       Exit normally even when some files fail to parse\n\n" ++
  "Options of list:\n" ++
  "  -v, --verbose  Show descriptions and message templates\n"

/-- The names of an absolute path. -/
def routeOf (path : String) : Route := (FileTree.names path).filter (· != "")

/-- The path to a route from a directory so many levels down. -/
def relativeTo (depth : Nat) (route : Route) : String :=
  "/".intercalate (List.replicate depth ".." ++ route)

/-- Whether the content of a file matters. -/
def isRead (name : String) : Bool :=
  (SourceExtension.ofPath? name).isSome || name == ".ignore" || name == ".gitignore" ||
    name == Settings.userFile || name == Settings.exampleFile

/-- A file, with its content if that matters. -/
def readFile (path name : String) : IO FileTree := do
  if isRead name then
    try
      return .file (← IO.FS.readBinFile path)
    catch _ => return .file .empty
  else return .file .empty

/-- A directory with everything below it. What lies elsewhere is a link. -/
partial def readTree (path : String) : IO FileTree := do
  let here ← IO.FS.realPath path
  if ← here.isDir then
    let entries ← here.readDir
    let children ← entries.toList.filterMapM fun e => do
      try
        let real ← IO.FS.realPath e.path
        if real == e.path then return some (e.fileName, ← readTree e.path.toString)
        else
          return some (e.fileName,
            .link (relativeTo (routeOf here.toString).length (routeOf real.toString)))
      catch _ => return none
    return .directory children
  else readFile here.toString (here.fileName.getD "")

/-- Adds what is at a path to a tree whose top is the top of all files. -/
def addPath (t : FileTree) (path : String) : IO FileTree := do
  try
    let real ← IO.FS.realPath path
    return t.put (← readTree real.toString) (routeOf real.toString)
  catch _ => return t

/-- Adds the lists in the directories above a path. -/
def addLists (t : FileTree) (path : String) : IO FileTree := do
  let route := routeOf path
  (List.range route.length).foldlM (fun t n => do
    let dir := "/" ++ "/".intercalate (route.take n)
    [".ignore", ".gitignore", ".git"].foldlM (fun t name => do
      let list := dir ++ "/" ++ name
      try
        let content ← IO.FS.readBinFile list
        return t.put (.file content) (route.take n ++ [name])
      catch _ => return t) t) t

/-- The files that a command line can reach. -/
def reachable (line : CommandLine) (settingsDir : String) : IO FileTree := do
  let start := match line.command with
    | .scan given => [given.path.getD "."]
    | .list _ => []
  let t ← start.foldlM (fun t path => do
    let t ← addPath t path
    try
      addLists t (← IO.FS.realPath path).toString
    catch _ => return t) (.directory [])
  match line.config with
  | some path =>
    try
      let content ← IO.FS.readBinFile path
      return t.put (.file content) (routeOf (← IO.FS.realPath path).toString)
    catch _ => return t
  | none =>
    IO.FS.createDirAll settingsDir
    addPath t settingsDir

/-- The directory for settings. -/
def settingsDirectory : IO String := do
  match ← IO.getEnv "XDG_CONFIG_HOME" with
  | some dir => return dir ++ "/astguard"
  | none => return (← IO.getEnv "HOME").getD "" ++ "/.config/astguard"

/-- Writes the example of a settings file if a run has made one. -/
def saveExample (w : Workplace) (after : FileTree) (dir : String) : IO Unit := do
  let route := w.settingsDir ++ [Settings.exampleFile]
  match w.files.contentAt? route, after.contentAt? route with
  | none, some content =>
    let path := dir ++ "/" ++ Settings.exampleFile
    IO.FS.writeBinFile path content
  | _, _ => return

/-- Runs a command line on the files around it. -/
def runHere (line : CommandLine) : IO UInt32 := do
  let dir ← settingsDirectory
  let files ← reachable line dir
  let colors ← (← IO.getStdout).isTty
  let here := routeOf (← IO.FS.realPath ".").toString
  let w : Workplace := ⟨files, "", here, routeOf dir, colors⟩
  let run := line.run w
  saveExample w run.files dir
  run.transcript.err.forM fun text => IO.eprintln text
  run.transcript.out.forM fun text => IO.println text
  match run.result with
  | .ok status =>
    IO.eprintln (Style.paint colors { color := some .green, bold := true } "Finished")
    return status.code.toUInt32
  | .error e =>
    IO.eprintln (Style.paint colors { color := some .red, bold := true } "error" ++ ": " ++ e.message)
    return ExitStatus.failure.code.toUInt32

end CodeAudit

open CodeAudit in
/-- The entry point. -/
def main (arguments : List String) : IO UInt32 := do
  match CommandLine.ofArguments arguments with
  | .ok line => runHere line
  | .error .help =>
    IO.print usageText
    return 0
  | .error .version =>
    IO.println "astguard 0.1.0"
    return 0
  | .error _ =>
    IO.eprint usageText
    return 2

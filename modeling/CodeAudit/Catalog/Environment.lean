import CodeAudit.Catalog.Basic

/-!
# The environment of a program

Where a program takes its configuration from, which commands it starts and how it asks for a
password.
-/

namespace CodeAudit.Environment

/-- The parameters of these rules. -/
structure Settings where
  sources : List String := ["ConfigParser", "environ"]
  fileSuffixes : List String := [".ini"]
  /-- The paths of functions that start a program. -/
  launchers : List String := ["subprocess.call", "subprocess.Popen"]
  remoteTools : List String := ["ssh", "scp"]
  prompts : List String := ["getpass"]

def configSource : RuleInfo where
  id := "insecure_config_source"
  description := "Configuration read through ConfigParser or the environment"
  message := "uses an insecure configuration function ({name})"
  severity := .low

def iniFile : RuleInfo where
  id := "ini_config_file"
  description := "open() on an .ini configuration file"
  message := "uses an insecure configuration file format ({file})"
  severity := .low

def shellCommand : RuleInfo where
  id := "insecure_shell_command"
  description := "subprocess call running ssh/scp from a literal command"
  message := "uses an insecure shell command ({command})"
  severity := .medium

def getpassPrompt : RuleInfo where
  id := "getpass_prompt"
  description := "getpass() used for password input"
  message := "uses {name}() instead of a secure password input function"
  severity := .low

/-- The rules of this family. -/
def infos : List RuleInfo := [configSource, iniFile, shellCommand, getpassPrompt]

/-- Whether a text ends with a piece. -/
def endsWith (piece text : String) : Bool :=
  Search.beginsWith piece.toList.reverse text.toList.reverse

def iniFileRule (info : RuleInfo) (suffixes : List String) : Rule where
  info := info
  kinds := .single .call
  check n _ :=
    if n.callName? = some "open" then
      match n.strArg? 0 with
      | some file =>
        if suffixes.any fun s => endsWith s file then Catalog.report info n [("file", file)] else []
      | none => []
    else []

def shellCommandRule (info : RuleInfo) (launchers tools : List String) : Rule where
  info := info
  kinds := .single .call
  check n _ :=
    if n.callPath?.any launchers.contains then
      match n.strArg? 0 with
      | some command =>
        if tools.any fun t => Search.occursIn t command then
          Catalog.report info n [("command", command)]
        else []
      | none => []
    else []

/-- The rules with their parameters; `adjust` sets the severities. -/
def rules (s : Settings) (adjust : RuleInfo → RuleInfo) : List Rule :=
  [Catalog.callRule (adjust configSource) (.names s.sources),
    iniFileRule (adjust iniFile) s.fileSuffixes,
    shellCommandRule (adjust shellCommand) s.launchers s.remoteTools,
    Catalog.callRule (adjust getpassPrompt) (.names s.prompts)]

end CodeAudit.Environment

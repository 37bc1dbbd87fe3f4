import CodeAudit.Settings.Basic
import CodeAudit.Text.Search

/-!
# The command line

There are two commands, and options before and behind them. An option with a value takes it from the
same argument or from the next one. A value is looked at when the next argument needs a decision, so
that of two mistakes the one that is found first counts.
-/

namespace CodeAudit

/-- Why a command line is not carried out. The first two are requests and no mistakes. -/
inductive UsageError where
  | help
  | version
  /-- There are no arguments at all. -/
  | nothingGiven
  | missingCommand
  | unknownCommand
  | unknownArgument
  /-- A value is missing, or is not among the possible ones. -/
  | invalidValue
  /-- A value cannot be read. -/
  | unreadableValue
  /-- A value is given to an option that has none. -/
  | unwantedValue
  /-- An option is given twice. -/
  | repeatedOption
deriving DecidableEq

/-- The options. -/
inductive CommandOption where
  | config
  | format
  | highOnly
  | minSeverity
  | failOn
  | ignoreFileErrors
  | verbose
  | help
  | version
deriving DecidableEq

/-- The places where options can stand. -/
inductive CommandLevel where
  /-- Before the command. -/
  | top
  | scan
  | list
deriving DecidableEq

namespace CommandOption

/-- Whether an option has a value. -/
def takesValue : CommandOption → Bool
  | config | format | minSeverity | failOn => true
  | _ => false

/-- The option with a long name at some place. -/
def ofName? (level : CommandLevel) (name : String) : Option CommandOption :=
  match level, name with
  | _, "config" => some config
  | _, "help" => some help
  | .top, "version" => some version
  | .scan, "format" => some format
  | .scan, "high-only" => some highOnly
  | .scan, "min-severity" => some minSeverity
  | .scan, "fail-on" => some failOn
  | .scan, "ignore-file-errors" => some ignoreFileErrors
  | .list, "verbose" => some verbose
  | _, _ => none

/-- The option with a short name at some place. -/
def ofLetter? (level : CommandLevel) (letter : Char) : Option CommandOption :=
  match level, letter with
  | _, 'h' => some help
  | .top, 'V' => some version
  | .scan, 'f' => some format
  | .list, 'v' => some verbose
  | _, _ => none

end CommandOption

/-- What is known from the arguments at one place. -/
structure GivenArguments where
  config : Option String := none
  format : Option OutputFormat := none
  highOnly : Bool := false
  minSeverity : Option Severity := none
  failOn : Option Severity := none
  ignoreFileErrors : Bool := false
  verbose : Bool := false
  path : Option String := none
  /-- The option given last, if it takes a value that is not looked at yet, and that value if it is
  there. -/
  pending : Option (CommandOption × Option String) := none

namespace GivenArguments

/-- Whether the next argument is a value. -/
def awaitsValue (g : GivenArguments) : Bool :=
  match g.pending with
  | some (_, none) => true
  | _ => false

/-- Whether an option is there already. -/
def has (g : GivenArguments) : CommandOption → Bool
  | .config => g.config.isSome
  | .format => g.format.isSome
  | .highOnly => g.highOnly
  | .minSeverity => g.minSeverity.isSome
  | .failOn => g.failOn.isSome
  | .ignoreFileErrors => g.ignoreFileErrors
  | .verbose => g.verbose
  | .help | .version => false

/-- The severity with a name. -/
def severity (name : String) : Except UsageError Severity :=
  (Severity.ofText name).mapError fun _ => .unreadableValue

/-- Gives an option its value. -/
def assign (g : GivenArguments) (option : CommandOption) (value : String) :
    Except UsageError GivenArguments :=
  if g.has option then .error .repeatedOption
  else
    match option with
    | .config => if value.isEmpty then .error .invalidValue else .ok { g with config := some value }
    | .format =>
      match OutputFormat.ofName? value with
      | some format => .ok { g with format := some format }
      | none => .error .invalidValue
    | .minSeverity => do
      let s ← severity value
      .ok { g with minSeverity := some s }
    | .failOn => do
      let s ← severity value
      .ok { g with failOn := some s }
    | _ => .ok g

/-- Looks at the value that is pending. -/
def settle (g : GivenArguments) : Except UsageError GivenArguments :=
  match g.pending with
  | none => .ok g
  | some (_, none) => .error .invalidValue
  | some (option, some value) => { g with pending := none }.assign option value

/-- Takes an option without a value. -/
def raise (g : GivenArguments) (option : CommandOption) : Except UsageError GivenArguments := do
  let g ← g.settle
  if g.has option then .error .repeatedOption
  else
    match option with
    | .help => .error .help
    | .version => .error .version
    | .highOnly => .ok { g with highOnly := true }
    | .ignoreFileErrors => .ok { g with ignoreFileErrors := true }
    | .verbose => .ok { g with verbose := true }
    | _ => .ok g

/-- Takes an option whose value stands in the same argument, or in the next one. -/
def takeValue (g : GivenArguments) (option : CommandOption) (attached : Option String) :
    Except UsageError GivenArguments := do
  let g ← g.settle
  match attached with
  | some value => g.assign option value
  | none => .ok { g with pending := some (option, none) }

/-- Takes an option by its long name, with the value behind the equals sign. -/
def long (g : GivenArguments) (level : CommandLevel) (name : String) (attached : Option String) :
    Except UsageError GivenArguments :=
  match CommandOption.ofName? level name with
  | none => .error .unknownArgument
  | some option =>
    if option.takesValue then g.takeValue option attached
    else if attached.isSome then .error .unwantedValue
    else g.raise option

/-- Takes options by their letters. What stands behind an option with a value is its value. -/
def short (level : CommandLevel) : GivenArguments → List Char → Except UsageError GivenArguments
  | g, [] => .ok g
  | g, letter :: rest =>
    match CommandOption.ofLetter? level letter with
    | none => .error .unknownArgument
    | some option =>
      if option.takesValue then
        match rest with
        | [] => g.takeValue option none
        | '=' :: value | value => g.takeValue option (some (String.ofList value))
      else do
        let g ← g.raise option
        short level g rest

/-- Takes an argument that is neither an option nor a value of one. -/
def positional (g : GivenArguments) (level : CommandLevel) (value : String) :
    Except UsageError GivenArguments :=
  if level = .scan && g.path.isNone then do
    let g ← g.settle
    .ok { g with path := some value }
  else .error .unknownArgument

end GivenArguments

/-- What an argument looks like. -/
inductive ArgumentForm where
  /-- Two dashes: no options follow. -/
  | separator
  | long (name : String) (value : Option String)
  | short (letters : List Char)
  | plain

/-- Tells the forms of arguments apart. A single dash is a plain argument. -/
def ArgumentForm.ofText (argument : String) : ArgumentForm :=
  match argument.toList with
  | ['-', '-'] => .separator
  | '-' :: '-' :: rest =>
    match rest.span (· != '=') with
    | (name, '=' :: value) => .long (String.ofList name) (some (String.ofList value))
    | (name, _) => .long (String.ofList name) none
  | '-' :: c :: rest => .short (c :: rest)
  | _ => .plain

namespace GivenArguments

/-- Reads the arguments behind a command. Once `plainOnly` is set, all of them are plain. -/
def read (level : CommandLevel) (plainOnly : Bool) (g : GivenArguments) :
    List String → Except UsageError GivenArguments
  | [] => g.settle
  | a :: rest =>
    if plainOnly then do
      let g ← g.positional level a
      read level true g rest
    else
      match ArgumentForm.ofText a with
      | .separator => read level true g rest
      | .long name value => do
        let g ← g.long level name value
        read level false g rest
      | .short letters => do
        let g ← short level g letters
        read level false g rest
      | .plain =>
        match g.pending with
        | some (option, none) => read level false { g with pending := some (option, some a) } rest
        | _ => do
          let g ← g.positional level a
          read level false g rest

end GivenArguments

/-- A command with its options. -/
inductive Command where
  | scan (given : GivenArguments)
  | list (verbose : Bool)

/-- A command line: a file with settings, and a command. -/
structure CommandLine where
  config : Option String
  command : Command

namespace CommandLine

/-- Answers a request for help on some commands. -/
def helpOn : List String → UsageError
  | [] | ["scan"] | ["list"] | ["help"] => .help
  | _ => .unknownCommand

/-- The command that stands behind options at the top. The innermost name of a settings file counts,
and mistakes behind the command come before a value that is still pending. -/
def ofCommand (top : GivenArguments) (level : CommandLevel) (rest : List String) :
    Except UsageError CommandLine := do
  let given ← GivenArguments.read level false {} rest
  let top ← top.settle
  let config := given.config.or top.config
  .ok ⟨config, if level = .scan then .scan given else .list given.verbose⟩

/-- Reads a command line. -/
def read (top : GivenArguments) (plainOnly : Bool) : List String → Except UsageError CommandLine
  | [] => do
    let top ← top.settle
    .error (if top.config.isSome then .missingCommand else .nothingGiven)
  | a :: rest =>
    if plainOnly then
      .error (if a == "scan" || a == "list" || a == "help" then .unknownArgument else .unknownCommand)
    else if !top.awaitsValue && a == "scan" then ofCommand top .scan rest
    else if !top.awaitsValue && a == "list" then ofCommand top .list rest
    else if !top.awaitsValue && a == "help" then .error (helpOn rest)
    else
      match ArgumentForm.ofText a with
      | .separator => read top true rest
      | .long name value => do
        let top ← top.long .top name value
        read top false rest
      | .short letters => do
        let top ← GivenArguments.short .top top letters
        read top false rest
      | .plain =>
        match top.pending with
        | some (option, none) => read { top with pending := some (option, some a) } false rest
        | _ => .error .unknownCommand

/-- The command line that some arguments make up. -/
def ofArguments (arguments : List String) : Except UsageError CommandLine :=
  read {} false arguments

end CommandLine

end CodeAudit
